import Keyring.Proofs.Service.Frame
import Keyring.Proofs.Store.Records

/-! Private keys that are not there. A store that lacks a private key goes on lacking it, and no answer shows it, as
long as nobody brings it: neither a caller who stores a wallet with it nor a provider that draws it. -/
namespace Keyring

variable {σ : Type}

/-- No record of the store has the private key. -/
def Store.Lacks (s : Store) (privateKey : String) : Prop :=
  ∀ e ∈ s.table.entries, ∀ w, Wallet.ofBytes? e.2 = some w → w.privateKey ≠ privateKey

namespace Store

variable {s : Store} {fs : Faults} {w : Wallet} {privateKey : String}

theorem Lacks.write (h : s.Lacks privateKey) (id : Uuid) (hw : w.privateKey ≠ privateKey) :
    (s.write id w).Lacks privateKey := by
  intro e he v hv
  rcases Table.eq_or_mem_of_mem_insertEntry s.table.sorted he with rfl | ⟨he, -⟩
  · simp only [Wallet.ofBytes?_toBytes, Option.some.injEq] at hv
    rwa [← hv]
  · exact h e he v hv

theorem Lacks.record (h : s.Lacks privateKey) {id : Uuid} (hrecord : s.record id = .ok w) :
    w.privateKey ≠ privateKey := by
  rw [Store.record] at hrecord
  split at hrecord
  · cases hrecord
  · next bs hget =>
    split at hrecord
    · cases hrecord
    · next v hread =>
      cases hrecord
      obtain ⟨front, back, hentries, -⟩ := List.lookup_eq_some_iff.1 hget
      exact h (key id, bs) (by rw [hentries]; simp) w hread

theorem Lacks.get (h : s.Lacks privateKey) {id : Uuid} {trashed : Bool} (hget : s.get id trashed = .ok w) :
    w.privateKey ≠ privateKey := by
  rw [Store.get] at hget
  split at hget
  · cases hget
  · next v hrecord =>
    split at hget <;> cases hget
    exact h.record hrecord

theorem Lacks.list (h : s.Lacks privateKey) {trashed : Bool} {ws : List Wallet} (hlist : s.list trashed = .ok ws)
    (hw : w ∈ ws) : w.privateKey ≠ privateKey := by
  rw [Store.list] at hlist
  cases hrecords : s.records with
  | error e =>
    rw [hrecords] at hlist
    cases hlist
  | ok all =>
    rw [hrecords] at hlist
    cases hlist
    rw [List.mem_mergeSort, List.mem_filter] at hw
    obtain ⟨e, he, hread⟩ := exists_mem_of_mapM hrecords hw.1
    split at hread
    · next v hv =>
      cases hread
      exact h e he w hv
    · cases hread

theorem Lacks.setting (h : s.Lacks privateKey) (hw : w.privateKey ≠ privateKey) :
    (s.transaction fs (setting fs w)).2.Lacks privateKey := by
  rcases s.transaction_leaves fs (Store.setting fs w) with hsame | ⟨u, hbody⟩
  · rwa [hsame]
  · rw [(setting_eq_ok_iff.1 hbody).2]
    exact h.write w.id hw

/-- A deletion returns a record with the private key that was stored. -/
theorem record_of_trashing {now : Timestamp} {answer : Wallet} {copy : Store}
    (h : trashing fs w now s = .ok (answer, copy)) :
    ∃ stored, s.record w.id = .ok stored ∧ answer.privateKey = stored.privateKey := by
  cases hrecord : s.record w.id with
  | error e =>
    rw [trashing_of_error hrecord] at h
    cases h
  | ok stored =>
    refine ⟨stored, rfl, ?_⟩
    cases hdeleted : stored.isDeleted with
    | true =>
      rw [trashing_of_deleted hrecord hdeleted] at h
      cases h
      rfl
    | false =>
      rw [trashing_of_active hrecord hdeleted] at h
      obtain ⟨-, -, h⟩ := bind_eq_ok_iff.1 h
      cases h
      rw [Wallet.trash, hdeleted]
      rfl

theorem Lacks.trashing (h : s.Lacks privateKey) (fs : Faults) (w : Wallet) (now : Timestamp) :
    (s.transaction fs (trashing fs w now)).2.Lacks privateKey
    ∧ ∀ answer, (s.transaction fs (trashing fs w now)).1 = .ok answer → answer.privateKey ≠ privateKey := by
  have hanswer {answer : Wallet} {copy : Store} (hbody : Store.trashing fs w now s = .ok (answer, copy)) :
      answer.privateKey ≠ privateKey := by
    obtain ⟨stored, hrecord, hkey⟩ := record_of_trashing hbody
    rw [hkey]
    exact h.record hrecord
  constructor
  · rcases s.transaction_leaves fs (Store.trashing fs w now) with hsame | ⟨answer, hbody⟩
    · rwa [hsame]
    · rcases write_of_trashing hbody with hsame | hwrite
      · rwa [hsame]
      · rw [hwrite]
        exact h.write w.id (hanswer hbody)
  · intro answer hok
    exact hanswer (transaction_eq_ok_iff.1 (Prod.ext hok rfl)).2.2

end Store

namespace Service

/-- A wallet with the private key is among those that are answered with. -/
def Shows (answer : Answer) (privateKey : String) : Prop :=
  ∃ ws w, answer = .ok ws ∧ w ∈ ws ∧ w.privateKey = privateKey

/-- The operation stores a wallet that has the private key, or one that a provider makes with it. -/
def Operation.Brings (r : Registry σ) (privateKey : String) : Operation σ → Prop
  | set w => w.privateKey = privateKey
  | create c stamp s => ∃ w, (r.generate c stamp s).1 = .ok w ∧ w.privateKey = privateKey
  | softDelete .. | fetch .. | scan _ | delete .. | get .. | list _ => False

variable {v : Service σ} {privateKey : String}

theorem mapError_eq_ok_iff {ε ε' α : Type} {x : Except ε α} {g : ε → ε'} {a : α} :
    x.mapError g = .ok a ↔ x = .ok a := by
  cases x <;> simp [Except.mapError]

theorem mapError_map_eq_ok_iff {ε ε' α β : Type} {x : Except ε α} {f : α → β} {g : ε → ε'} {b : β} :
    (x.map f).mapError g = .ok b ↔ ∃ a, x = .ok a ∧ f a = b := by
  cases x <;> simp [Except.mapError, Except.map]

theorem registry_attempt (v : Service σ) (fs : Store.Faults) (op : Operation σ) :
    (v.attempt fs op).2.registry = v.registry := by
  cases op with
  | set | softDelete | fetch | scan | get | list => rfl
  | create c stamp s =>
    rw [attempt, createOn]
    split <;> rfl
  | delete id now =>
    rw [attempt, deleteOn]
    split <;> rfl

theorem lacks_createOn (h : v.store.Lacks privateKey) (fs : Store.Faults) {c : Chain} {stamp : Stamp} {s : σ}
    (hbrings : ∀ w, (v.registry.generate c stamp s).1 = .ok w → w.privateKey ≠ privateKey) :
    (v.createOn fs c stamp s).2.store.Lacks privateKey
    ∧ ∀ w, (v.createOn fs c stamp s).1 = .ok w → w.privateKey ≠ privateKey := by
  rw [createOn]
  cases hgenerate : (v.registry.generate c stamp s).1 with
  | error e =>
    refine ⟨h, fun w hw => ?_⟩
    cases hw
  | ok made =>
    refine ⟨h.setting (hbrings made hgenerate), fun w hw => ?_⟩
    obtain ⟨u, -, rfl⟩ := mapError_map_eq_ok_iff.1 hw
    exact hbrings made hgenerate

theorem lacks_deleteOn (h : v.store.Lacks privateKey) (fs : Store.Faults) (id : Uuid) (now : Timestamp) :
    (v.deleteOn fs id now).2.store.Lacks privateKey := by
  rw [deleteOn]
  split
  · exact h
  · exact (h.trashing fs _ now).1

/-- An operation that does not bring the private key neither stores nor shows it. -/
theorem lacks_attempt (h : v.store.Lacks privateKey) (fs : Store.Faults) {op : Operation σ}
    (hop : ¬ op.Brings v.registry privateKey) :
    (v.attempt fs op).2.store.Lacks privateKey ∧ ¬ Shows (v.attempt fs op).1 privateKey := by
  cases op with
  | set w =>
    refine ⟨h.setting hop, ?_⟩
    rintro ⟨ws, w', hanswer, hw', -⟩
    obtain ⟨u, -, rfl⟩ := mapError_map_eq_ok_iff.1 hanswer
    cases hw'
  | softDelete w now =>
    obtain ⟨hstore, hstored⟩ := h.trashing fs w now
    refine ⟨hstore, ?_⟩
    rintro ⟨ws, w', hanswer, hw', hkey⟩
    obtain ⟨stored, hok, rfl⟩ := mapError_map_eq_ok_iff.1 hanswer
    rw [List.mem_singleton.1 hw'] at hkey
    exact hstored stored hok hkey
  | fetch id trashed =>
    refine ⟨h, ?_⟩
    rintro ⟨ws, w, hanswer, hw, hkey⟩
    obtain ⟨found, hget, rfl⟩ := mapError_map_eq_ok_iff.1 hanswer
    rw [List.mem_singleton.1 hw] at hkey
    exact h.get hget hkey
  | scan trashed =>
    refine ⟨h, ?_⟩
    rintro ⟨ws, w, hanswer, hw, hkey⟩
    exact h.list (mapError_eq_ok_iff.1 hanswer) hw hkey
  | create c stamp s =>
    obtain ⟨hstore, hmade⟩ := lacks_createOn h fs fun w hw hkey => hop ⟨w, hw, hkey⟩
    refine ⟨hstore, ?_⟩
    rintro ⟨ws, w, hanswer, hw, hkey⟩
    obtain ⟨made, hok, rfl⟩ := mapError_map_eq_ok_iff.1 hanswer
    rw [List.mem_singleton.1 hw] at hkey
    exact hmade made hok hkey
  | delete id now =>
    refine ⟨lacks_deleteOn h fs id now, ?_⟩
    rintro ⟨ws, w, hanswer, hw, -⟩
    obtain ⟨u, -, rfl⟩ := mapError_map_eq_ok_iff.1 hanswer
    cases hw
  | get id trashed =>
    refine ⟨h, ?_⟩
    rintro ⟨ws, w, hanswer, hw, hkey⟩
    obtain ⟨found, hget, rfl⟩ := mapError_map_eq_ok_iff.1 hanswer
    rw [List.mem_singleton.1 hw] at hkey
    exact h.get (mapError_eq_ok_iff.1 hget) hkey
  | list trashed =>
    refine ⟨h, ?_⟩
    rintro ⟨ws, w, hanswer, hw, hkey⟩
    exact h.list (mapError_eq_ok_iff.1 (mapError_eq_ok_iff.1 hanswer)) hw hkey

/-- As long as nobody brings the private key, no answer shows it. -/
theorem not_shows_attempts (h : v.store.Lacks privateKey) {steps : List (Store.Faults × Operation σ)}
    (hsteps : ∀ step ∈ steps, ¬ step.2.Brings v.registry privateKey) :
    ∀ answer ∈ (v.attempts steps).1, ¬ Shows answer privateKey := by
  induction steps generalizing v with
  | nil => exact fun _ hanswer => nomatch hanswer
  | cons step rest ih =>
    obtain ⟨fs, op⟩ := step
    rw [List.forall_mem_cons] at hsteps
    obtain ⟨hstore, hanswer⟩ := lacks_attempt h fs hsteps.1
    rw [attempts, List.forall_mem_cons]
    refine ⟨hanswer, ih hstore ?_⟩
    rw [registry_attempt]
    exact hsteps.2

end Service
end Keyring
