import Keyring.Error
import Keyring.Store.Table
import Keyring.Wallet.Record

/-! The store of wallets: a table that holds the record of each wallet under its identifier. Records are never
removed; a deleted wallet stays in the table with its time of deletion. An operation that fails leaves the store as
it was. -/
namespace Keyring

structure Store where
  table : Table
  /-- Whether writes go through. -/
  writable : Bool := true

namespace Store

def empty : Store := { table := .empty }

def key (id : Uuid) : String := id.toString

/-- The record under an identifier, deleted or not. -/
def record (s : Store) (id : Uuid) : Except StoreError Wallet :=
  match s.table.get? (key id) with
  | none => .error (.notFound id)
  | some bs =>
    match Wallet.ofBytes? bs with
    | none => .error .unreadable
    | some w => .ok w

/-- A deleted wallet is found only when trashed ones are asked for. -/
def get (s : Store) (id : Uuid) (trashed : Bool) : Except StoreError Wallet :=
  match s.record id with
  | .error e => .error e
  | .ok w => if w.isDeleted ∧ trashed = false then .error (.notFound id) else .ok w

def write (s : Store) (id : Uuid) (w : Wallet) : Store := { s with table := s.table.insert (key id) w.toBytes }

/-- Stores a wallet in place of any other with its identifier. -/
def set (s : Store) (w : Wallet) : Except StoreError Unit × Store :=
  if s.writable then (.ok (), s.write w.id w) else (.error .io, s)

/-- Deletes the stored wallet with the identifier of `w` and returns its record. A wallet that is deleted already
keeps its time of deletion and is not written again. -/
def softDelete (s : Store) (w : Wallet) (now : Timestamp) : Except StoreError Wallet × Store :=
  if s.writable then
    match s.record w.id with
    | .error e => (.error e, s)
    | .ok stored =>
      if stored.isDeleted then (.ok stored, s)
      else (.ok (stored.trash now), s.write w.id (stored.trash now))
  else (.error .io, s)

/-- All records in the order of their keys. -/
def records (s : Store) : Except StoreError (List Wallet) :=
  s.table.entries.mapM fun e =>
    match Wallet.ofBytes? e.2 with
    | some w => .ok w
    | none => .error .unreadable

/-- The wallets, oldest first and those of one time in the order of their keys. One unreadable record spoils the
list. -/
def list (s : Store) (trashed : Bool) : Except StoreError (List Wallet) :=
  s.records.map fun ws =>
    (ws.filter fun w => trashed || !w.isDeleted).mergeSort fun a b => a.createdAt.le b.createdAt

end Store
end Keyring
