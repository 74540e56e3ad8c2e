import Keyring.Chain
import Keyring.Time.Timestamp
import Keyring.Uuid

/-! Wallets: the key material and address of one account on one chain. A wallet that is deleted keeps all of it and
has a time of deletion. The view of a wallet is what may be shown of it. -/
namespace Keyring

structure Wallet where
  id : Uuid
  address : String
  publicKey : String
  privateKey : String
  createdAt : Timestamp
  deletedAt : Option Timestamp
  chain : Chain
deriving DecidableEq

/-- The identifier and time that a new wallet gets. -/
structure Stamp where
  id : Uuid
  time : Timestamp

/-- A wallet without its private key. -/
structure WalletView where
  id : Uuid
  address : String
  publicKey : String
  chain : Chain
  createdAt : Timestamp
  deletedAt : Option Timestamp
deriving DecidableEq

namespace Wallet

def isDeleted (w : Wallet) : Bool := w.deletedAt.isSome

def view (w : Wallet) : WalletView := ⟨w.id, w.address, w.publicKey, w.chain, w.createdAt, w.deletedAt⟩

/-- Marks a wallet deleted; a wallet that is deleted already keeps its time. -/
def trash (w : Wallet) (now : Timestamp) : Wallet :=
  if w.isDeleted then w else { w with deletedAt := some now }

theorem isDeleted_trash (w : Wallet) (now : Timestamp) : (w.trash now).isDeleted = true := by
  by_cases h : w.isDeleted <;> simp_all [trash, isDeleted]

theorem trash_trash (w : Wallet) (now later : Timestamp) : (w.trash now).trash later = w.trash now := by
  rw [trash, if_pos (isDeleted_trash w now)]

end Wallet

end Keyring
