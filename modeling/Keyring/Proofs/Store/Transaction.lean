import Keyring.Proofs.Sequence
import Keyring.Proofs.Wallet.Record
import Keyring.Store

/-! Writes as transactions. A transaction works on a copy of the store, and when it is committed the copy takes the
place of the store. It breaks off before that when it does not find what it looks for, or when the file gives out: at its
beginning, at an insertion or at its end. A transaction that breaks off leaves the store as it was, whatever it has done
to its copy. -/
namespace Keyring.Store

/-! ### Transactions -/

/-- What a transaction needs the file for. -/
inductive Stage where
  | opening
  | insertion
  | commit

/-- The stages at which the file gives out, each with what is reported. -/
abbrev Faults := Stage → Option StoreError

namespace Faults

/-- On a file that takes no writes no transaction begins; on another one all goes well. -/
def ofWritable (writable : Bool) : Faults
  | .opening => if writable then none else some .io
  | .insertion | .commit => none

def check (fs : Faults) (stage : Stage) : Except StoreError Unit :=
  match fs stage with
  | none => .ok ()
  | some e => .error e

theorem check_eq_ok_iff {fs : Faults} {stage : Stage} {u : Unit} : fs.check stage = .ok u ↔ fs stage = none := by
  rw [check]
  cases fs stage <;> simp

end Faults

variable {α : Type} {fs : Faults} {s copy : Store} {w stored : Wallet} {now : Timestamp} {e : StoreError}

/-- What the copy of a transaction holds at its end, if it gets there. -/
def working (s : Store) (fs : Faults) (body : Store → Except StoreError (α × Store)) :
    Except StoreError (α × Store) := do
  fs.check .opening
  let (a, copy) ← body s
  fs.check .commit
  return (a, copy)

def transaction (s : Store) (fs : Faults) (body : Store → Except StoreError (α × Store)) :
    Except StoreError α × Store :=
  match s.working fs body with
  | .error e => (.error e, s)
  | .ok (a, copy) => (.ok a, copy)

/-- Puts a wallet into the copy, in place of what is there. -/
def setting (fs : Faults) (w : Wallet) (copy : Store) : Except StoreError (Unit × Store) := do
  fs.check .insertion
  return ((), copy.write w.id w)

/-- Looks for the record of a wallet in the copy, and marks it deleted unless it is. -/
def trashing (fs : Faults) (w : Wallet) (now : Timestamp) (copy : Store) : Except StoreError (Wallet × Store) := do
  let stored ← copy.record w.id
  if stored.isDeleted then return (stored, copy)
  fs.check .insertion
  return (stored.trash now, copy.write w.id (stored.trash now))

/-! ### What they come to -/

theorem transaction_eq_ok_iff {body : Store → Except StoreError (α × Store)} {a : α} :
    s.transaction fs body = (.ok a, copy) ↔
      fs .opening = none ∧ fs .commit = none ∧ body s = .ok (a, copy) := by
  have hworking : s.working fs body = .ok (a, copy) ↔
      fs .opening = none ∧ fs .commit = none ∧ body s = .ok (a, copy) := by
    simp only [working, bind_eq_ok_iff, Faults.check_eq_ok_iff]
    constructor
    · rintro ⟨-, hopening, ⟨b, c⟩, hbody, -, hcommit, h⟩
      cases h
      exact ⟨hopening, hcommit, hbody⟩
    · rintro ⟨hopening, hcommit, hbody⟩
      exact ⟨(), hopening, (a, copy), hbody, (), hcommit, rfl⟩
  rw [transaction, ← hworking]
  rcases s.working fs body with e | ⟨b, c⟩ <;> simp

theorem transaction_of_body_error {body : Store → Except StoreError (α × Store)} (hopening : fs .opening = none)
    (h : body s = .error e) : s.transaction fs body = (.error e, s) := by
  have hcheck : fs.check .opening = .ok () := Faults.check_eq_ok_iff.2 hopening
  rw [transaction, working, hcheck, h]
  rfl

/-- Wherever a transaction breaks off, the store is what it was. -/
theorem transaction_of_error {body : Store → Except StoreError (α × Store)}
    (h : (s.transaction fs body).1 = .error e) : (s.transaction fs body).2 = s := by
  rw [transaction] at h ⊢
  split
  · rfl
  · next heq =>
    rw [heq] at h
    cases h

theorem setting_eq_ok_iff {u : Unit} {s' : Store} :
    setting fs w s = .ok (u, s') ↔ fs .insertion = none ∧ s' = s.write w.id w := by
  simp only [setting, bind_eq_ok_iff, Faults.check_eq_ok_iff]
  constructor
  · rintro ⟨-, hinsertion, h⟩
    cases h
    exact ⟨hinsertion, rfl⟩
  · rintro ⟨hinsertion, rfl⟩
    exact ⟨(), hinsertion, rfl⟩

/-- A record that is deleted already is returned as it is, and no insertion is needed for it. -/
theorem trashing_of_deleted (h : s.record w.id = .ok stored) (hdeleted : stored.isDeleted = true) :
    trashing fs w now s = .ok (stored, s) := by
  rw [trashing, h]
  simp [bind, Except.bind, hdeleted, pure, Except.pure]

theorem trashing_of_active (h : s.record w.id = .ok stored) (hactive : stored.isDeleted = false) :
    trashing fs w now s = fs.check .insertion >>= fun _ =>
      .ok (stored.trash now, s.write w.id (stored.trash now)) := by
  rw [trashing, h]
  simp [bind, Except.bind, hactive, pure, Except.pure]

theorem trashing_of_error (h : s.record w.id = .error e) : trashing fs w now s = .error e := by
  rw [trashing, h]
  rfl

/-- Whatever is left of a transaction that trashes, it is the store or one write away from it. -/
theorem write_of_trashing {answer : Wallet} (h : trashing fs w now s = .ok (answer, copy)) :
    copy = s ∨ copy = s.write w.id answer := by
  cases hrecord : s.record w.id with
  | error e =>
    rw [trashing_of_error hrecord] at h
    cases h
  | ok stored =>
    cases hdeleted : stored.isDeleted with
    | true =>
      rw [trashing_of_deleted hrecord hdeleted] at h
      cases h
      exact .inl rfl
    | false =>
      rw [trashing_of_active hrecord hdeleted] at h
      obtain ⟨-, -, h⟩ := bind_eq_ok_iff.1 h
      cases h
      exact .inr rfl

/-! ### The operations of the store -/

/-- To store a wallet is one transaction. -/
theorem set_eq_transaction (s : Store) (w : Wallet) :
    s.set w = s.transaction (.ofWritable s.writable) (setting (.ofWritable s.writable) w) := by
  rw [set]
  cases hwritable : s.writable with
  | true => rfl
  | false => rfl

theorem softDelete_eq_transaction (s : Store) (w : Wallet) (now : Timestamp) :
    s.softDelete w now = s.transaction (.ofWritable s.writable) (trashing (.ofWritable s.writable) w now) := by
  rw [softDelete]
  cases hwritable : s.writable with
  | false => rfl
  | true =>
    rw [if_pos rfl, transaction, working]
    cases hrecord : s.record w.id with
    | error e =>
      rw [trashing_of_error hrecord]
      rfl
    | ok stored =>
      cases hdeleted : stored.isDeleted with
      | true =>
        rw [trashing_of_deleted hrecord hdeleted]
        simp only [hdeleted]
        rfl
      | false =>
        rw [trashing_of_active hrecord hdeleted]
        simp only [hdeleted]
        rfl

/-! ### What a write leaves -/

theorem record_write_self (s : Store) (id : Uuid) (w : Wallet) : (s.write id w).record id = .ok w := by
  rw [record, write, Table.get?_insert_self]
  simp only [Wallet.ofBytes?_toBytes]

/-- A deletion returns what it leaves in the store. -/
theorem softDelete_of_record (hwritable : s.writable = true) (h : s.record w.id = .ok stored) (now : Timestamp) :
    (s.softDelete w now).1 = .ok (stored.trash now)
    ∧ (s.softDelete w now).2.record w.id = .ok (stored.trash now)
    ∧ (s.softDelete w now).2.writable = true := by
  rw [softDelete, if_pos hwritable, h]
  dsimp only
  cases hdeleted : stored.isDeleted with
  | true =>
    rw [Wallet.trash, if_pos hdeleted]
    exact ⟨rfl, h, hwritable⟩
  | false => exact ⟨rfl, record_write_self s w.id (stored.trash now), hwritable⟩

theorem get?_write_of_ne {id : Uuid} {other : String} (h : other ≠ key id) :
    (s.write id w).table.get? other = s.table.get? other :=
  s.table.get?_insert_of_ne _ h

/-- A transaction leaves the store, or what its body makes of it. -/
theorem transaction_leaves (s : Store) (fs : Faults) (body : Store → Except StoreError (α × Store)) :
    (s.transaction fs body).2 = s ∨ ∃ a, body s = .ok (a, (s.transaction fs body).2) := by
  rcases hrun : s.transaction fs body with ⟨e | a, copy⟩
  · have hstore : (s.transaction fs body).2 = s := transaction_of_error (e := e) (by rw [hrun])
    rw [hrun] at hstore
    exact .inl hstore
  · exact .inr ⟨a, (transaction_eq_ok_iff.1 hrun).2.2⟩

/-- No entry changes but the one under the identifier of the wallet. -/
theorem get?_transaction_setting {other : String} (h : other ≠ key w.id) :
    (s.transaction fs (setting fs w)).2.table.get? other = s.table.get? other := by
  rcases s.transaction_leaves fs (setting fs w) with hsame | ⟨u, hbody⟩
  · rw [hsame]
  · rw [(setting_eq_ok_iff.1 hbody).2, get?_write_of_ne h]

theorem get?_transaction_trashing {other : String} (h : other ≠ key w.id) :
    (s.transaction fs (trashing fs w now)).2.table.get? other = s.table.get? other := by
  rcases s.transaction_leaves fs (trashing fs w now) with hsame | ⟨answer, hbody⟩
  · rw [hsame]
  · rcases write_of_trashing hbody with hsame | hwrite
    · rw [hsame]
    · rw [hwrite, get?_write_of_ne h]

end Keyring.Store
