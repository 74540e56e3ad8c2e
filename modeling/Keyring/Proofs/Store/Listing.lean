import Keyring.Proofs.Store.Session
import Keyring.Proofs.Store.Table
import Keyring.Proofs.Text.Utf8
import Keyring.Proofs.Time.Instant

/-! The order of a list of wallets. All values of a table must be readable; the wallets then stand in the order of
their times, and those of one time in the order of their keys. As no two of them are level, the order is no freedom:
it is decided by what stands in the table, and to leave the deleted ones out does not change it. -/
namespace Keyring

/-! ### Stable sorting -/

/-- What was in order by one measure is sorted by another one, and where that one does not tell, it is in order as
before. -/
theorem pairwise_mergeSort_of_pairwise {α : Type} {le : α → α → Bool} {r : α → α → Prop}
    (trans : ∀ a b c, le a b = true → le b c = true → le a c = true) (total : ∀ a b, (le a b || le b a) = true)
    {l : List α} (h : l.Pairwise r) : (l.mergeSort le).Pairwise fun a b => le a b = true ∧ (le b a = true → r a b) := by
  induction h with
  | nil => simp
  | @cons a l hhead _ ih =>
    -- The first one goes before those that it is level with, and all that go before it are strictly smaller.
    obtain ⟨front, back, hsort, hrest, hfront⟩ := List.mergeSort_cons trans total a l
    have hsorted := List.pairwise_mergeSort trans total (a :: l)
    have hmem : ∀ b ∈ front ++ back, b ∈ l := fun b hb => List.mem_mergeSort.1 (hrest ▸ hb)
    rw [hsort, List.pairwise_append, List.pairwise_cons] at hsorted ⊢
    rw [hrest, List.pairwise_append] at ih
    obtain ⟨ihfront, ihback, ihacross⟩ := ih
    obtain ⟨-, ⟨hback, -⟩, hacross⟩ := hsorted
    refine ⟨ihfront, ⟨fun b hb => ⟨hback b hb, fun _ => hhead b (hmem b (List.mem_append_right _ hb))⟩, ihback⟩, ?_⟩
    intro b hb c hc
    rcases List.mem_cons.1 hc with rfl | hc
    · refine ⟨hacross b hb c List.mem_cons_self, fun hle => ?_⟩
      simpa [hle] using hfront b hb
    · exact ihacross b hb c hc

/-! ### Records -/

/-- The entries of a table with their values read as wallets, in the order of their keys. -/
def Table.Reads (t : Table) (ps : List (String × Wallet)) : Prop :=
  List.Forall₂ (fun e p => e.1 = p.1 ∧ Wallet.ofBytes? e.2 = some p.2) t.entries ps

namespace Table

variable {t : Table} {ps qs : List (String × Wallet)}

theorem exists_reads_iff : (∃ ps, t.Reads ps) ↔ ∀ e ∈ t.entries, ∃ w, Wallet.ofBytes? e.2 = some w := by
  unfold Reads
  induction t.entries with
  | nil => simp
  | cons e es ih =>
    rw [List.forall_mem_cons, ← ih]
    constructor
    · rintro ⟨ps, hps⟩
      cases hps with
      | cons hhead hrest => exact ⟨⟨_, hhead.2⟩, _, hrest⟩
    · rintro ⟨⟨w, hw⟩, ps, hps⟩
      exact ⟨(e.1, w) :: ps, .cons ⟨rfl, hw⟩ hps⟩

theorem Reads.unique (hps : t.Reads ps) (hqs : t.Reads qs) : ps = qs := by
  refine List.right_unique_forall₂' ?_ hps hqs
  intro e p q hp hq
  have hwallet := hp.2.symm.trans hq.2
  exact Prod.ext (hp.1.symm.trans hq.1) (Option.some.inj hwallet)

theorem Reads.sorted (h : t.Reads ps) : ps.Pairwise fun p q => p.1 < q.1 := by
  have hkeys : List.Forall₂ (· = ·) (t.entries.map Prod.fst) (ps.map Prod.fst) := by
    rw [List.forall₂_map_left_iff, List.forall₂_map_right_iff]
    exact h.imp fun e p hep => hep.1
  rw [List.forall₂_eq_eq_eq] at hkeys
  rw [← List.pairwise_map (f := Prod.fst), ← hkeys, List.pairwise_map]
  exact t.sorted

end Table

theorem Store.records_eq_ok_iff {s : Store} {ws : List Wallet} :
    s.records = .ok ws ↔ ∃ ps, s.table.Reads ps ∧ ws = ps.map Prod.snd := by
  rw [records, mapM_eq_ok_iff]
  unfold Table.Reads
  generalize s.table.entries = es
  constructor
  · intro h
    induction h with
    | nil => exact ⟨[], .nil, rfl⟩
    | @cons e w es ws hhead _ ih =>
      obtain ⟨ps, hps, rfl⟩ := ih
      have hw : Wallet.ofBytes? e.2 = some w := by
        revert hhead
        cases Wallet.ofBytes? e.2 <;> simp
      exact ⟨(e.1, w) :: ps, .cons ⟨rfl, hw⟩ hps, rfl⟩
  · rintro ⟨ps, hps, rfl⟩
    rw [List.forall₂_map_right_iff]
    refine hps.imp fun e p hep => ?_
    rw [hep.2]

/-! ### Their order -/

/-- The wallet of the first record is older, or the two are of one time and its key has the smaller bytes. -/
def Precedes (p q : String × Wallet) : Prop :=
  p.2.createdAt.reading < q.2.createdAt.reading
  ∨ (p.2.createdAt = q.2.createdAt ∧ Bytes.utf8 p.1 < Bytes.utf8 q.1)

/-- All the records of a table, each once and in order. -/
structure Table.Arranged (t : Table) (ps : List (String × Wallet)) : Prop where
  all : ∃ decoded, t.Reads decoded ∧ ps.Perm decoded
  ordered : ps.Pairwise Precedes

/-- Sorting by time alone. -/
def arrange (ps : List (String × Wallet)) : List (String × Wallet) :=
  ps.mergeSort fun p q => p.2.createdAt.le q.2.createdAt

theorem Precedes.asymm {p q : String × Wallet} (h : Precedes p q) : ¬ Precedes q p := by
  rcases h with hlt | ⟨htime, hlt⟩ <;> rintro (hlt' | ⟨htime', hlt'⟩)
  · exact List.lt_asymm hlt hlt'
  · exact List.lt_irrefl _ (htime' ▸ hlt)
  · exact List.lt_irrefl _ (htime ▸ hlt')
  · exact List.lt_asymm hlt hlt'

theorem ordered_arrange {ps : List (String × Wallet)} (h : ps.Pairwise fun p q => p.1 < q.1) :
    (arrange ps).Pairwise Precedes := by
  have htrans : ∀ p q r : String × Wallet, p.2.createdAt.le q.2.createdAt = true →
      q.2.createdAt.le r.2.createdAt = true → p.2.createdAt.le r.2.createdAt = true :=
    fun p q r => Timestamp.le_trans r.2.createdAt
  have htotal : ∀ p q : String × Wallet, (p.2.createdAt.le q.2.createdAt || q.2.createdAt.le p.2.createdAt) = true :=
    fun p q => Timestamp.le_total _ _
  refine (pairwise_mergeSort_of_pairwise htrans htotal h).imp ?_
  rintro p q ⟨hle, hlevel⟩
  by_cases hge : q.2.createdAt.le p.2.createdAt = true
  · exact .inr ⟨Timestamp.eq_of_le_of_le hle hge, Bytes.utf8_lt_iff.2 (hlevel hge)⟩
  · rw [Timestamp.le_iff_reading, Decidable.not_not] at hge
    exact .inl hge

/-- What is in order is in the only order that there is. -/
theorem eq_of_ordered {ps qs : List (String × Wallet)} (hps : ps.Pairwise Precedes) (hqs : qs.Pairwise Precedes)
    (hperm : ps.Perm qs) : ps = qs :=
  hperm.eq_of_pairwise (fun _ _ _ _ h h' => absurd h' h.asymm) hps hqs

theorem perm_arrange (ps : List (String × Wallet)) : (arrange ps).Perm ps := List.mergeSort_perm ps _

/-- To leave some records out does not change the order of the others. -/
theorem arrange_filter {ps : List (String × Wallet)} (h : ps.Pairwise fun p q => p.1 < q.1)
    (keep : String × Wallet → Bool) :
    arrange (ps.filter keep) = (arrange ps).filter keep := by
  refine eq_of_ordered (ordered_arrange (h.filter keep)) ((ordered_arrange h).filter keep) ?_
  exact (perm_arrange _).trans ((perm_arrange ps).filter keep).symm

theorem Table.arranged_iff {t : Table} {ps : List (String × Wallet)} :
    t.Arranged ps ↔ ∃ decoded, t.Reads decoded ∧ ps = arrange decoded := by
  constructor
  · rintro ⟨⟨decoded, hdecoded, hperm⟩, hordered⟩
    refine ⟨decoded, hdecoded, eq_of_ordered hordered (ordered_arrange hdecoded.sorted) ?_⟩
    exact hperm.trans (perm_arrange decoded).symm
  · rintro ⟨decoded, hdecoded, rfl⟩
    exact ⟨⟨decoded, hdecoded, perm_arrange decoded⟩, ordered_arrange hdecoded.sorted⟩

/-! ### Lists -/

namespace Store

variable {s s' : Store} {trashed : Bool} {ws : List Wallet}

theorem list_eq_ok_iff : s.list trashed = .ok ws ↔
    ∃ ps, s.table.Arranged ps ∧ ws = (ps.map Prod.snd).filter fun w => trashed || !w.isDeleted := by
  simp only [Table.arranged_iff]
  rw [list]
  have hlist (decoded : List (String × Wallet)) (h : s.table.Reads decoded) :
      ((decoded.map Prod.snd).filter fun w => trashed || !w.isDeleted).mergeSort (fun a b => a.createdAt.le b.createdAt)
        = ((arrange decoded).map Prod.snd).filter fun w => trashed || !w.isDeleted := by
    rw [List.filter_map, List.filter_map, ← arrange_filter h.sorted]
    exact (List.map_mergeSort (f := Prod.snd) fun _ _ _ _ => rfl).symm
  constructor
  · intro h
    cases hrecords : s.records with
    | error e =>
      rw [hrecords] at h
      cases h
    | ok all =>
      obtain ⟨decoded, hdecoded, rfl⟩ := records_eq_ok_iff.1 hrecords
      rw [hrecords] at h
      cases h
      exact ⟨_, ⟨decoded, hdecoded, rfl⟩, hlist decoded hdecoded⟩
  · rintro ⟨ps, ⟨decoded, hdecoded, rfl⟩, rfl⟩
    rw [records_eq_ok_iff.2 ⟨decoded, hdecoded, rfl⟩, ← hlist decoded hdecoded]
    rfl

theorem exists_list_iff :
    (∃ ws, s.list trashed = .ok ws) ↔ ∀ e ∈ s.table.entries, ∃ w, Wallet.ofBytes? e.2 = some w := by
  simp only [list_eq_ok_iff, Table.arranged_iff, ← Table.exists_reads_iff]
  constructor
  · rintro ⟨ws, ps, ⟨decoded, hdecoded, -⟩, -⟩
    exact ⟨decoded, hdecoded⟩
  · rintro ⟨decoded, hdecoded⟩
    exact ⟨_, _, ⟨decoded, hdecoded, rfl⟩, rfl⟩

theorem list_false_eq (s : Store) : s.list false = (s.list true).map (List.filter fun w => w.deletedAt.isNone) := by
  cases hrecords : s.records with
  | error e => simp only [list, hrecords, Except.map]
  | ok all =>
    obtain ⟨decoded, hdecoded, rfl⟩ := records_eq_ok_iff.1 hrecords
    have harranged : s.table.Arranged (arrange decoded) := Table.arranged_iff.2 ⟨decoded, hdecoded, rfl⟩
    rw [list_eq_ok_iff.2 ⟨_, harranged, rfl⟩, list_eq_ok_iff.2 ⟨_, harranged, rfl⟩]
    simp [Except.map, Wallet.isDeleted]

theorem list_congr (h : ∀ e, e ∈ s.table.entries ↔ e ∈ s'.table.entries) : s.list trashed = s'.list trashed := by
  rw [list, list, records, records, Table.eq_of_mem_iff h]

/-- Where each wallet stands under its own identifier, the list has what can be found. -/
theorem mem_list_iff {m : Records} (h : s.table.Represents m) (trashed : Bool) :
    ∃ ws, s.list trashed = .ok ws ∧ ∀ w, w ∈ ws ↔ s.get w.id trashed = .ok w := by
  obtain ⟨ws, hlist, hmem⟩ := list_eq h trashed
  refine ⟨ws, hlist, fun w => (hmem w).trans ?_⟩
  rw [get_eq h, Records.get]
  constructor
  · rintro ⟨hfound, hkept⟩
    rw [hfound]
    cases trashed <;> simp_all
  · intro hget
    split at hget
    · cases hget
    · next found hfound =>
      split at hget <;> cases hget
      refine ⟨hfound, ?_⟩
      cases trashed <;> simp_all

theorem get_trashed_eq_ok_iff {m : Records} {id : Uuid} {w : Wallet} : m.get id true = .ok w ↔ m id = some w := by
  rw [Records.get]
  cases m id <;> simp

/-- Tables in which the same wallets are found list them in the same way. -/
theorem list_eq_of_get {m m' : Records} (h : s.table.Represents m) (h' : s'.table.Represents m')
    (hget : ∀ id, s.get id true = s'.get id true) (trashed : Bool) : s.list trashed = s'.list trashed := by
  have hmaps : m = m' := by
    funext id
    refine Option.ext fun w => ?_
    rw [← get_trashed_eq_ok_iff, ← get_trashed_eq_ok_iff, ← get_eq h, ← get_eq h', hget]
  subst hmaps
  have hsub {t t' : Table} (ht : t.Represents m) (ht' : t'.Represents m) {e : String × ByteArray} (he : e ∈ t.entries) :
      e ∈ t'.entries := by
    obtain ⟨id, w, hw, rfl⟩ := ht.entry e he
    exact ht'.mem_entries_iff.2 hw
  exact list_congr fun e => ⟨hsub h h', hsub h' h⟩

/-- A list is there just when every value of the table is readable. It has all records, each once, in the order of their
times as clocks show them and of the bytes of their keys; leaving out the deleted ones leaves the order. It is decided
by the entries of the table. After a session with a fresh store it has what can be found, and sessions after which the
same is found end in the same list. The times are instants: a text from another time zone is read as the time that
clocks show in universal time. -/
theorem list_ordered :
    (∀ (s : Store) (trashed : Bool),
      (∃ ws, s.list trashed = .ok ws) ↔ ∀ e ∈ s.table.entries, ∃ w, Wallet.ofBytes? e.2 = some w)
    ∧ (∀ (s : Store) (ws : List Wallet),
      s.list true = .ok ws ↔ ∃ ps, s.table.Arranged ps ∧ ws = ps.map Prod.snd)
    ∧ (∀ s : Store, s.list false = (s.list true).map (List.filter fun w => w.deletedAt.isNone))
    ∧ (∀ (s s' : Store) (trashed : Bool), (∀ e, e ∈ s.table.entries ↔ e ∈ s'.table.entries) →
      s.list trashed = s'.list trashed)
    ∧ (∀ (d e : Disk) (path : String) (place : Path) (calls : List Call) (trashed : Bool),
      d.openStore path = (.ok (place, .empty), e) →
      ∃ ws, (runCalls (Session.step path) ⟨e, place, .empty⟩ calls).2.store.list trashed = .ok ws
        ∧ ∀ w, w ∈ ws ↔ (runCalls (Session.step path) ⟨e, place, .empty⟩ calls).2.store.get w.id trashed = .ok w)
    ∧ (∀ (d e d' e' : Disk) (path path' : String) (place place' : Path) (calls calls' : List Call) (trashed : Bool),
      d.openStore path = (.ok (place, .empty), e) → d'.openStore path' = (.ok (place', .empty), e') →
      (∀ id, (runCalls (Session.step path) ⟨e, place, .empty⟩ calls).2.store.get id true
        = (runCalls (Session.step path') ⟨e', place', .empty⟩ calls').2.store.get id true) →
      (runCalls (Session.step path) ⟨e, place, .empty⟩ calls).2.store.list trashed
        = (runCalls (Session.step path') ⟨e', place', .empty⟩ calls').2.store.list trashed)
    ∧ ∀ (here : Timestamp) (minutes : Int), minutes.natAbs < 1440 →
      Timestamp.parse? (String.ofList (here.stem ++ Timestamp.zoneText minutes))
        = Timestamp.of? (here.second - 60 * minutes) here.nano := by
  refine ⟨fun s trashed => exists_list_iff, ?_, list_false_eq, fun s s' trashed => list_congr, ?_, ?_, ?_⟩
  · intro s ws
    simp only [list_eq_ok_iff, Bool.true_or, List.filter_true]
  · intro d e path place calls trashed hopen
    exact mem_list_iff (Session.run_follows (Session.follows_fresh hopen) calls).2.represents trashed
  · intro d e d' e' path path' place place' calls calls' trashed hopen hopen' hget
    have hfollows := (Session.run_follows (Session.follows_fresh hopen) calls).2
    have hfollows' := (Session.run_follows (Session.follows_fresh hopen') calls').2
    exact list_eq_of_get hfollows.represents hfollows'.represents hget trashed
  · exact fun here minutes h => here.parse?_zoned h

/-! ### A list of one time -/

namespace Sample

def disk : Disk := ⟨[["data"]], [(["data", "wallets.redb"], .table .empty)], [["data", "wallets.redb"]]⟩

def wallet (n : Nat) : Wallet := ⟨.ofNat n, "", "", "", .epoch, none, .tron⟩

/-- What a session with a fresh store leaves. -/
def after (calls : List Call) : Store :=
  (runCalls (Session.step "data/wallets.redb") ⟨disk, ["data", "wallets.redb"], .empty⟩ calls).2.store

theorem openStore_eq :
    Disk.empty.openStore "data/wallets.redb" = (.ok (["data", "wallets.redb"], .empty), disk) := rfl

theorem get_after (calls : List Call) (id : Uuid) (trashed : Bool) :
    (after calls).get id trashed = (runCalls Records.step .empty calls).2.get id trashed :=
  get_eq (Session.run_follows (Session.follows_fresh openStore_eq) calls).2.represents id trashed

theorem after_set_set (a b : Wallet) :
    (after [.set a, .set b]).table = (Table.empty.insert (key a.id) a.toBytes).insert (key b.id) b.toBytes := rfl

/-- Half past five on the first day. -/
def here : Timestamp := (Timestamp.of? 19800 0).get (by decide)

theorem key_ne : key (wallet 1).id ≠ key (wallet 2).id := by decide

end Sample

/-- Two wallets that are stored in either order are listed in one order, and one that is deleted is left out. Half past
five in a zone that far east of universal time is the start of 1970. -/
theorem list_ordered_sample :
    (Sample.after [.set (Sample.wallet 1), .set (Sample.wallet 2)]).list true
      = (Sample.after [.set (Sample.wallet 2), .set (Sample.wallet 1)]).list true
    ∧ (∃ ws, (Sample.after [.set (Sample.wallet 1), .softDelete (Sample.wallet 1) .epoch]).list false = .ok ws
      ∧ Sample.wallet 1 ∉ ws)
    ∧ Timestamp.parse? "1970-01-01T05:30:00+05:30" = Timestamp.of? 0 0 := by
  obtain ⟨-, -, -, hsame, hfound, -, hzoned⟩ := list_ordered
  refine ⟨?_, ?_, ?_⟩
  · refine hsame _ _ true fun e => ?_
    have hne := Sample.key_ne
    have hnone : e ∉ Table.empty.entries := List.not_mem_nil
    simp only [Sample.after_set_set, Table.mem_insert_iff, hnone, false_and, or_false]
    grind
  · obtain ⟨ws, hlist, hmem⟩ := hfound _ _ _ _ [.set (Sample.wallet 1), .softDelete (Sample.wallet 1) .epoch] false
      Sample.openStore_eq
    rw [← Sample.after] at hlist
    refine ⟨ws, hlist, fun hin => ?_⟩
    have hget := (hmem (Sample.wallet 1)).1 hin
    have hdeleted : Records.get (runCalls Records.step .empty [.set (Sample.wallet 1),
        .softDelete (Sample.wallet 1) .epoch]).2 (Sample.wallet 1).id false = .error (.notFound (Sample.wallet 1).id) :=
      rfl
    rw [← Sample.after, Sample.get_after, hdeleted] at hget
    cases hget
  · have htext : String.ofList (Sample.here.stem ++ Timestamp.zoneText 330) = "1970-01-01T05:30:00+05:30" := by decide
    have hread := hzoned Sample.here 330 (by decide)
    rwa [htext] at hread

end Store
end Keyring
