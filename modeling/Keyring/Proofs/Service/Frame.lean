import Keyring.Proofs.Store.Transaction
import Keyring.Service

/-! What operations leave as it was, on any table whatsoever. One that fails leaves all of it, wherever the file gives
out, and so does one that only reads; one that stores or deletes a wallet leaves every entry but one. -/
namespace Keyring

variable {σ α β : Type}

namespace Service

/-! ### The service on a file that may give out -/

/-- What a transaction of the store is to a caller of the service. -/
def through (v : Service σ) (f : α → β) (outcome : Except StoreError α × Store) : Except Error β × Service σ :=
  ((outcome.1.map f).mapError .ofStore, { v with store := outcome.2 })

def createOn (v : Service σ) (fs : Store.Faults) (c : Chain) (stamp : Stamp) (s : σ) : Except Error Wallet × Service σ :=
  match (v.registry.generate c stamp s).1 with
  | .error e => (.error e, v)
  | .ok w => v.through (fun _ => w) (v.store.transaction fs (Store.setting fs w))

def deleteOn (v : Service σ) (fs : Store.Faults) (id : Uuid) (now : Timestamp) : Except Error Unit × Service σ :=
  match v.get id false with
  | .error e => (.error e, v)
  | .ok w => v.through (fun _ => ()) (v.store.transaction fs (Store.trashing fs w now))

theorem create_eq_createOn (v : Service σ) (c : Chain) (stamp : Stamp) (s : σ) :
    ((v.create c stamp s).1, (v.create c stamp s).2.1) = v.createOn (.ofWritable v.store.writable) c stamp s := by
  rw [create, createOn]
  rcases v.registry.generate c stamp s with ⟨e | w, rest⟩
  · rfl
  · dsimp only
    rw [← Store.set_eq_transaction, through]
    rcases v.store.set w with ⟨e | u, store⟩ <;> rfl

theorem delete_eq_deleteOn (v : Service σ) (id : Uuid) (now : Timestamp) :
    v.delete id now = v.deleteOn (.ofWritable v.store.writable) id now := by
  rw [delete, deleteOn]
  rcases v.get id false with e | w
  · rfl
  · dsimp only
    rw [← Store.softDelete_eq_transaction, through, trash]
    rcases v.store.softDelete w now with ⟨e | stored, store⟩ <;> rfl

/-! ### Operations -/

/-- What can be asked of a store or of the service that uses it. -/
inductive Operation (σ : Type) where
  | set (w : Wallet)
  | softDelete (w : Wallet) (now : Timestamp)
  | fetch (id : Uuid) (trashed : Bool)
  | scan (trashed : Bool)
  | create (c : Chain) (stamp : Stamp) (s : σ)
  | delete (id : Uuid) (now : Timestamp)
  | get (id : Uuid) (trashed : Bool)
  | list (trashed : Bool)

def Operation.reads : Operation σ → Bool
  | fetch .. | scan _ | get .. | list _ => true
  | _ => false

inductive Failure where
  | store (e : StoreError)
  | service (e : Error)

/-- The wallets that an operation answers with, if it does not fail. -/
abbrev Answer := Except Failure (List Wallet)

/-- An operation while the file may give out. -/
def attempt (v : Service σ) (fs : Store.Faults) : Operation σ → Answer × Service σ
  | .set w =>
    let outcome := v.store.transaction fs (Store.setting fs w)
    ((outcome.1.map fun _ => []).mapError .store, { v with store := outcome.2 })
  | .softDelete w now =>
    let outcome := v.store.transaction fs (Store.trashing fs w now)
    ((outcome.1.map fun stored => [stored]).mapError .store, { v with store := outcome.2 })
  | .fetch id trashed => (((v.store.get id trashed).map fun w => [w]).mapError .store, v)
  | .scan trashed => ((v.store.list trashed).mapError .store, v)
  | .create c stamp s =>
    let outcome := v.createOn fs c stamp s
    ((outcome.1.map fun w => [w]).mapError .service, outcome.2)
  | .delete id now =>
    let outcome := v.deleteOn fs id now
    ((outcome.1.map fun _ => []).mapError .service, outcome.2)
  | .get id trashed => (((v.get id trashed).map fun w => [w]).mapError .service, v)
  | .list trashed => ((v.list trashed).mapError .service, v)

/-- Operations one after the other, each with what the file does meanwhile. -/
def attempts (v : Service σ) : List (Store.Faults × Operation σ) → List Answer × Service σ
  | [] => ([], v)
  | (fs, op) :: rest =>
    ((v.attempt fs op).1 :: ((v.attempt fs op).2.attempts rest).1, ((v.attempt fs op).2.attempts rest).2)

/-! ### One operation -/

theorem exists_error_of_map {ε ε' : Type} {x : Except ε α} {f : α → β} {g : ε → ε'} {e : ε'}
    (h : (x.map f).mapError g = .error e) : ∃ e', x = .error e' := by
  cases x with
  | ok a => cases h
  | error e' => exact ⟨e', rfl⟩

theorem through_of_error {v : Service σ} {fs : Store.Faults} {body : Store → Except StoreError (α × Store)} {f : α → β}
    {e : Error} (h : (v.through f (v.store.transaction fs body)).1 = .error e) :
    (v.through f (v.store.transaction fs body)).2 = v := by
  obtain ⟨e', he'⟩ := exists_error_of_map h
  rw [through, Store.transaction_of_error he']

theorem createOn_of_error {v : Service σ} {fs : Store.Faults} {c : Chain} {stamp : Stamp} {s : σ} {e : Error}
    (h : (v.createOn fs c stamp s).1 = .error e) : (v.createOn fs c stamp s).2 = v := by
  rw [createOn] at h ⊢
  split at h
  · rfl
  · exact through_of_error h

theorem deleteOn_of_error {v : Service σ} {fs : Store.Faults} {id : Uuid} {now : Timestamp} {e : Error}
    (h : (v.deleteOn fs id now).1 = .error e) : (v.deleteOn fs id now).2 = v := by
  rw [deleteOn] at h ⊢
  split at h
  · rfl
  · exact through_of_error h

theorem attempt_of_reads (v : Service σ) (fs : Store.Faults) {op : Operation σ} (h : op.reads = true) :
    (v.attempt fs op).2 = v := by
  cases op with
  | set | softDelete | create | delete => cases h
  | fetch | scan | get | list => rfl

/-- An operation that fails leaves the service as it was. -/
theorem attempt_of_error {v : Service σ} {fs : Store.Faults} {op : Operation σ} {e : Failure}
    (h : (v.attempt fs op).1 = .error e) : (v.attempt fs op).2 = v := by
  cases op with
  | set | softDelete =>
    obtain ⟨e', he'⟩ := exists_error_of_map h
    rw [attempt, Store.transaction_of_error he']
  | create =>
    obtain ⟨e', he'⟩ := exists_error_of_map h
    exact createOn_of_error he'
  | delete =>
    obtain ⟨e', he'⟩ := exists_error_of_map h
    exact deleteOn_of_error he'
  | fetch | scan | get | list => rfl

/-! ### Many operations -/

theorem attempts_of_idle (v : Service σ) (steps : List (Store.Faults × Operation σ))
    (h : ∀ x ∈ steps.zip (v.attempts steps).1, x.1.2.reads = true ∨ ∃ e, x.2 = .error e) :
    (v.attempts steps).2 = v := by
  induction steps with
  | nil => rfl
  | cons step rest ih =>
    obtain ⟨fs, op⟩ := step
    rw [attempts] at h ⊢
    rw [List.zip_cons_cons, List.forall_mem_cons] at h
    obtain ⟨hstep, hrest⟩ := h
    have hsame : (v.attempt fs op).2 = v := by
      rcases hstep with hreads | ⟨e, he⟩
      · exact v.attempt_of_reads fs hreads
      · exact attempt_of_error he
    simp only [hsame] at hrest ⊢
    exact ih hrest

/-- What the store and the service do to a table are transactions. Whatever is in the table and wherever the file gives
out: an operation that fails or only reads leaves everything as it was, and so do many of them; a record that is
deleted already is returned and not inserted again; one that cannot be read is reported and stays; and to store or to
delete a wallet changes no entry but the one under the text of its identifier. -/
theorem attempts_confined (σ : Type) :
    ((∀ (s : Store) (w : Wallet),
        s.set w = s.transaction (.ofWritable s.writable) (Store.setting (.ofWritable s.writable) w))
      ∧ (∀ (s : Store) (w : Wallet) (now : Timestamp),
        s.softDelete w now = s.transaction (.ofWritable s.writable) (Store.trashing (.ofWritable s.writable) w now))
      ∧ (∀ (v : Service σ) (c : Chain) (stamp : Stamp) (s : σ),
        ((v.create c stamp s).1, (v.create c stamp s).2.1) = v.createOn (.ofWritable v.store.writable) c stamp s)
      ∧ ∀ (v : Service σ) (id : Uuid) (now : Timestamp),
        v.delete id now = v.deleteOn (.ofWritable v.store.writable) id now)
    ∧ (∀ (v : Service σ) (fs : Store.Faults) (op : Operation σ) (e : Failure),
        (v.attempt fs op).1 = .error e → (v.attempt fs op).2 = v)
    ∧ (∀ (v : Service σ) (fs : Store.Faults) (op : Operation σ), op.reads = true → (v.attempt fs op).2 = v)
    ∧ (∀ (v : Service σ) (steps : List (Store.Faults × Operation σ)),
        (∀ x ∈ steps.zip (v.attempts steps).1, x.1.2.reads = true ∨ ∃ e, x.2 = .error e) → (v.attempts steps).2 = v)
    ∧ (∀ (s : Store) (fs : Store.Faults) (w stored : Wallet) (now : Timestamp), fs .opening = none → fs .commit = none →
        s.record w.id = .ok stored → stored.isDeleted = true →
        s.transaction fs (Store.trashing fs w now) = (.ok stored, s))
    ∧ (∀ (s : Store) (fs : Store.Faults) (w : Wallet) (now : Timestamp) (bs : ByteArray), fs .opening = none →
        s.table.get? w.id.toString = some bs → Wallet.ofBytes? bs = none →
        s.transaction fs (Store.trashing fs w now) = (.error .unreadable, s))
    ∧ ∀ (v : Service σ) (fs : Store.Faults) (w : Wallet) (now : Timestamp) (other : String), other ≠ w.id.toString →
        (v.attempt fs (.set w)).2.store.table.get? other = v.store.table.get? other
        ∧ (v.attempt fs (.softDelete w now)).2.store.table.get? other = v.store.table.get? other := by
  refine ⟨⟨Store.set_eq_transaction, Store.softDelete_eq_transaction, create_eq_createOn, delete_eq_deleteOn⟩,
    fun _ _ _ _ => attempt_of_error, fun v fs _ => v.attempt_of_reads fs, attempts_of_idle, ?_, ?_, ?_⟩
  · intro s fs w stored now hopening hcommit hrecord hdeleted
    exact Store.transaction_eq_ok_iff.2 ⟨hopening, hcommit, Store.trashing_of_deleted hrecord hdeleted⟩
  · intro s fs w now bs hopening hget hread
    have hrecord : s.record w.id = .error .unreadable := by
      rw [Store.record, Store.key, hget]
      dsimp only
      rw [hread]
    exact Store.transaction_of_body_error hopening (Store.trashing_of_error hrecord)
  · intro v fs w now other hother
    exact ⟨Store.get?_transaction_setting hother, Store.get?_transaction_trashing hother⟩

/-! ### A record that cannot be read -/

namespace Sample

/-- A wallet that was deleted when it was made. -/
def trashed : Wallet := ⟨.ofNat 1, "", "", "", .epoch, some .epoch, .tron⟩

def spoilt : Store := { Store.empty with table := Table.empty.insert (Store.key .nil) ⟨#[0xff]⟩ }

/-- Next to a deleted wallet stands a byte that is no record. -/
def store : Store := spoilt.write trashed.id trashed

theorem key_ne : Store.key .nil ≠ Store.key trashed.id := fun h => absurd (Uuid.toString_injective h) (by decide)

theorem get?_store : store.table.get? (Store.key .nil) = some ⟨#[0xff]⟩ := by
  rw [store, Store.get?_write_of_ne key_ne, spoilt, Table.get?_insert_self]

end Sample

/-- The byte is reported and stays, and so does the deleted wallet, which is returned. -/
theorem attempts_confined_spoilt :
    Sample.store.softDelete { Sample.trashed with id := .nil } .epoch = (.error .unreadable, Sample.store)
    ∧ Sample.store.softDelete Sample.trashed .epoch = (.ok Sample.trashed, Sample.store)
    ∧ ((⟨Sample.store, .empty⟩ : Service Unit).attempt (.ofWritable true)
        (.set Sample.trashed)).2.store.table.get? (Store.key .nil) = some ⟨#[0xff]⟩ := by
  obtain ⟨⟨-, htrash, -, -⟩, -, -, -, hdeleted, hunreadable, hothers⟩ := attempts_confined Unit
  refine ⟨?_, ?_, ?_⟩
  · rw [htrash]
    exact hunreadable _ _ { Sample.trashed with id := .nil } _ ⟨#[0xff]⟩ rfl Sample.get?_store (by decide +kernel)
  · rw [htrash]
    exact hdeleted _ _ _ Sample.trashed _ rfl rfl (Store.record_write_self Sample.spoilt _ Sample.trashed) rfl
  · rw [(hothers _ _ Sample.trashed .epoch _ Sample.key_ne).1]
    exact Sample.get?_store

end Service
end Keyring
