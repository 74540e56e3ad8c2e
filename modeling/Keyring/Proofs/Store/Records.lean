import Keyring.Proofs.Sequence
import Keyring.Proofs.Wallet.Record
import Keyring.Store

/-! The table of a store as a map from identifiers to wallets. Each wallet stands in it once, as its stored form
under the text of its identifier, and nothing else does. The operations of the store are those of the map. -/
namespace Keyring

/-- The wallet under each identifier, if there is one. -/
abbrev Records := Uuid → Option Wallet

namespace Records

def empty : Records := fun _ => none

def put (m : Records) (id : Uuid) (w : Wallet) : Records := fun other => if other = id then some w else m other

@[simp] theorem put_self (m : Records) (id : Uuid) (w : Wallet) : m.put id w id = some w := if_pos rfl

theorem put_of_ne (m : Records) {id other : Uuid} (w : Wallet) (h : other ≠ id) : m.put id w other = m other :=
  if_neg h

/-- To put a wallet where it is already changes nothing. -/
theorem put_eq_self {m : Records} {id : Uuid} {w : Wallet} (h : m id = some w) : m.put id w = m := by
  funext other
  by_cases hother : other = id
  · rw [hother, put_self, h]
  · exact m.put_of_ne w hother

/-- The wallet under an identifier, unless it is deleted and trashed ones are not asked for. -/
def get (m : Records) (id : Uuid) (trashed : Bool) : Except StoreError Wallet :=
  match m id with
  | none => .error (.notFound id)
  | some w => if w.deletedAt.isSome ∧ trashed = false then .error (.notFound id) else .ok w

/-- Gives the wallet under an identifier a time of deletion, unless it has one, and leaves the rest of it as it is. -/
def softDelete (m : Records) (id : Uuid) (now : Timestamp) : Except StoreError Wallet × Records :=
  match m id with
  | none => (.error (.notFound id), m)
  | some w =>
    let kept := { w with deletedAt := w.deletedAt.or (some now) }
    (.ok kept, m.put id kept)

end Records

/-- What stands in a table after an insertion was put there just now, or stood there under another key. -/
theorem Table.eq_or_mem_of_mem_insertEntry {key : String} {value : ByteArray} {entries : List (String × ByteArray)}
    (h : entries.Pairwise fun a b => a.1 < b.1) {e : String × ByteArray} (he : e ∈ insertEntry key value entries) :
    e = (key, value) ∨ (e ∈ entries ∧ e.1 ≠ key) := by
  induction entries with
  | nil => exact .inl (List.mem_singleton.1 he)
  | cons head rest ih =>
    obtain ⟨hhead, hrest⟩ := List.pairwise_cons.1 h
    rw [insertEntry] at he
    split at he
    · next hlt =>
      rcases List.mem_cons.1 he with rfl | hmem
      · exact .inl rfl
      · refine .inr ⟨hmem, fun heq => ?_⟩
        rcases List.mem_cons.1 hmem with rfl | hmem
        · exact String.lt_irrefl _ (heq ▸ hlt)
        · exact String.lt_irrefl _ (String.lt_trans hlt (heq ▸ hhead e hmem))
    · split at he
      · next hlt =>
        rcases List.mem_cons.1 he with rfl | hmem
        · exact .inr ⟨List.mem_cons_self, fun heq => String.lt_irrefl _ (heq ▸ hlt)⟩
        · exact (ih hrest hmem).imp_right (And.imp_left (List.mem_cons_of_mem head))
      · next hle hge =>
        rcases List.mem_cons.1 he with rfl | hmem
        · exact .inl rfl
        · refine .inr ⟨List.mem_cons_of_mem _ hmem, fun heq => ?_⟩
          have hkey : key = head.1 := String.le_antisymm (String.not_lt.1 hge) (String.not_lt.1 hle)
          exact String.lt_irrefl _ (heq ▸ hkey ▸ hhead e hmem)

/-- The entries of a table are the stored forms of the wallets of a map, each under the text of its identifier. -/
structure Table.Represents (t : Table) (m : Records) : Prop where
  get? : ∀ id, t.get? id.toString = (m id).map Wallet.toBytes
  id : ∀ id w, m id = some w → w.id = id
  entry : ∀ e ∈ t.entries, ∃ id w, m id = some w ∧ e = (id.toString, w.toBytes)

namespace Table.Represents

variable {t : Table} {m : Records}

theorem empty : Table.empty.Represents Records.empty where
  get? _ := rfl
  id _ _ h := nomatch h
  entry _ h := nomatch h

theorem insert (h : t.Represents m) (w : Wallet) :
    (t.insert w.id.toString w.toBytes).Represents (m.put w.id w) where
  get? id := by
    by_cases hid : id = w.id
    · subst hid
      simp
    · have hkey : id.toString ≠ w.id.toString := fun heq => hid (Uuid.toString_injective heq)
      rw [t.get?_insert_of_ne _ hkey, m.put_of_ne w hid, h.get?]
  id id v hv := by
    by_cases hid : id = w.id
    · subst hid
      rw [Records.put_self, Option.some.injEq] at hv
      rw [hv]
    · rw [m.put_of_ne w hid] at hv
      exact h.id id v hv
  entry e he := by
    rcases eq_or_mem_of_mem_insertEntry t.sorted he with rfl | ⟨hmem, hkey⟩
    · exact ⟨w.id, w, Records.put_self m w.id w, rfl⟩
    · obtain ⟨id, v, hv, rfl⟩ := h.entry e hmem
      have hid : id ≠ w.id := fun heq => hkey (congrArg Uuid.toString heq)
      exact ⟨id, v, by rw [m.put_of_ne w hid, hv], rfl⟩

/-- Every entry has the stored form of a wallet, under the text of the identifier in it. -/
theorem canonical (h : t.Represents m) {e : String × ByteArray} (he : e ∈ t.entries) :
    ∃ w, Wallet.ofBytes? e.2 = some w ∧ e.1 = w.id.toString := by
  obtain ⟨id, w, hw, heq⟩ := h.entry e he
  refine ⟨w, ?_, ?_⟩
  · rw [heq, Wallet.ofBytes?_toBytes]
  · rw [heq, h.id id w hw]

/-- Two entries whose wallets have one identifier are one entry. -/
theorem unique (h : t.Represents m) {a b : String × ByteArray} (ha : a ∈ t.entries) (hb : b ∈ t.entries)
    {v w : Wallet} (hv : Wallet.ofBytes? a.2 = some v) (hw : Wallet.ofBytes? b.2 = some w) (hid : v.id = w.id) : a = b := by
  have hentry {e : String × ByteArray} {u : Wallet} (he : e ∈ t.entries) (hu : Wallet.ofBytes? e.2 = some u) :
      m u.id = some u ∧ e = (u.id.toString, u.toBytes) := by
    obtain ⟨id, u', hu', heq⟩ := h.entry e he
    simp only [heq, Wallet.ofBytes?_toBytes, Option.some.injEq] at hu
    rw [← hu, h.id id u' hu']
    exact ⟨hu', heq⟩
  obtain ⟨hmv, hav⟩ := hentry ha hv
  obtain ⟨hmw, hbw⟩ := hentry hb hw
  rw [hid, hmw, Option.some.injEq] at hmv
  rw [hav, hbw, hmv]

/-- The map has a wallet just when the table has its entry. -/
theorem mem_entries_iff (h : t.Represents m) {id : Uuid} {w : Wallet} :
    (id.toString, w.toBytes) ∈ t.entries ↔ m id = some w := by
  constructor
  · intro hmem
    obtain ⟨id', w', hw', heq⟩ := h.entry _ hmem
    rw [Prod.mk.injEq] at heq
    obtain ⟨hid, hbytes⟩ := heq
    rw [Uuid.toString_injective hid, Wallet.toBytes_injective hbytes, hw']
  · intro hw
    have hget := h.get? id
    rw [hw, Option.map_some, Table.get?, List.lookup_eq_some_iff] at hget
    obtain ⟨front, back, hentries, -⟩ := hget
    rw [hentries]
    exact List.mem_append_right _ List.mem_cons_self

end Table.Represents

/-! ### The operations -/

namespace Store

variable {s : Store} {m : Records}

theorem record_eq (h : s.table.Represents m) (id : Uuid) :
    s.record id = match m id with
      | none => .error (.notFound id)
      | some w => .ok w := by
  rw [record, key, h.get?]
  cases m id with
  | none => rfl
  | some w => simp [Wallet.ofBytes?_toBytes]

theorem get_eq (h : s.table.Represents m) (id : Uuid) (trashed : Bool) : s.get id trashed = m.get id trashed := by
  rw [get, Records.get, record_eq h]
  cases m id <;> rfl

theorem represents_write (h : s.table.Represents m) (w : Wallet) :
    (s.write w.id w).table.Represents (m.put w.id w) := h.insert w

/-- A deletion answers and leaves what the map says. -/
theorem softDelete_eq (h : s.table.Represents m) (hwritable : s.writable = true) (w : Wallet) (now : Timestamp) :
    (s.softDelete w now).1 = (m.softDelete w.id now).1
    ∧ (s.softDelete w now).2.table.Represents (m.softDelete w.id now).2
    ∧ (s.softDelete w now).2.writable = true := by
  rw [softDelete, if_pos hwritable, record_eq h, Records.softDelete]
  cases hm : m w.id with
  | none => exact ⟨rfl, h, hwritable⟩
  | some stored =>
    have hid := h.id _ _ hm
    cases hdeleted : stored.deletedAt with
    | some time =>
      have hkept : { stored with deletedAt := some time } = stored := by rw [← hdeleted]
      simp only [Wallet.isDeleted, hdeleted, Option.isSome_some, if_true, Option.some_or, hkept,
        Records.put_eq_self hm]
      exact ⟨trivial, h, hwritable⟩
    | none =>
      simp only [Wallet.isDeleted, hdeleted, Option.isSome_none, Bool.false_eq_true, if_false, Option.none_or,
        Wallet.trash]
      refine ⟨trivial, ?_, hwritable⟩
      rw [← hid]
      exact represents_write h { stored with deletedAt := some now }

theorem records_eq (h : s.table.Represents m) : ∃ ws, s.records = .ok ws ∧ ∀ w, w ∈ ws ↔ m w.id = some w := by
  have hentry : ∀ e ∈ s.table.entries, ∃ w, m w.id = some w ∧ e = (w.id.toString, w.toBytes) := by
    intro e he
    obtain ⟨id, w, hw, rfl⟩ := h.entry e he
    obtain rfl := h.id id w hw
    exact ⟨w, hw, rfl⟩
  rw [records]
  refine (mapM_ok ?_).imp fun ws hws => ⟨hws.1, fun w => (hws.2 w).trans ⟨?_, ?_⟩⟩
  · intro e he
    obtain ⟨w, -, rfl⟩ := hentry e he
    exact ⟨w, by simp only [Wallet.ofBytes?_toBytes]⟩
  · rintro ⟨e, he, hread⟩
    obtain ⟨v, hv, rfl⟩ := hentry e he
    simp only [Wallet.ofBytes?_toBytes, Except.ok.injEq] at hread
    rwa [← hread]
  · intro hw
    exact ⟨(w.id.toString, w.toBytes), h.mem_entries_iff.2 hw, by simp only [Wallet.ofBytes?_toBytes]⟩

/-- The list has the wallets of the map, without those that are deleted unless they are asked for. -/
theorem list_eq (h : s.table.Represents m) (trashed : Bool) :
    ∃ ws, s.list trashed = .ok ws ∧ ∀ w, w ∈ ws ↔ m w.id = some w ∧ (trashed = true ∨ w.deletedAt = none) := by
  obtain ⟨ws, hws, hmem⟩ := records_eq h
  refine ⟨_, by rw [list, hws, Except.map], fun w => ?_⟩
  rw [List.mem_mergeSort, List.mem_filter, hmem]
  simp [Wallet.isDeleted]

end Store
end Keyring
