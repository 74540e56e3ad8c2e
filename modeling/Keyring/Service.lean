import Keyring.Evm.Transaction
import Keyring.Registry
import Keyring.Store
import Keyring.Tron.Node

/-! The wallet service: a store of wallets and a registry of providers. It makes, shows and deletes wallets, and signs
transactions with them. -/
namespace Keyring

structure Service (σ : Type) where
  store : Store
  registry : Registry σ

namespace Service

variable {σ : Type}

/-- A wallet that cannot be stored is given up. -/
def create (v : Service σ) (c : Chain) (stamp : Stamp) (s : σ) : Except Error Wallet × Service σ × σ :=
  match v.registry.generate c stamp s with
  | (.error e, s) => (.error e, v, s)
  | (.ok w, s) =>
    match v.store.set w with
    | (.error e, store) => (.error (.ofStore e), { v with store }, s)
    | (.ok (), store) => (.ok w, { v with store }, s)

def get (v : Service σ) (id : Uuid) (trashed : Bool) : Except Error Wallet :=
  (v.store.get id trashed).mapError .ofStore

/-- The second step of a deletion, with the wallet that the first one read. -/
def trash (v : Service σ) (w : Wallet) (now : Timestamp) : Except Error Unit × Service σ :=
  match v.store.softDelete w now with
  | (.error e, store) => (.error (.ofStore e), { v with store })
  | (.ok _, store) => (.ok (), { v with store })

/-- A wallet is read, and then deleted; one that is deleted already is not found. -/
def delete (v : Service σ) (id : Uuid) (now : Timestamp) : Except Error Unit × Service σ :=
  match v.get id false with
  | .error e => (.error e, v)
  | .ok w => v.trash w now

def list (v : Service σ) (trashed : Bool) : Except Error (List Wallet) :=
  (v.store.list trashed).mapError .ofStore

def supported (v : Service σ) : List Chain := v.registry.chains

/-- The provider of a chain that is to sign. -/
def signer (v : Service σ) (c : Chain) : Except Error (Provider σ) :=
  match v.registry.lookup c with
  | some p => .ok p
  | none => .error (.provider (.missing c))

/-- The signed transaction for an order on a chain of the Ethereum family. -/
def evmTransaction (v : Service σ) (c : Chain) (w : Wallet) (order : Evm.Order) : Except Error String :=
  match v.signer c with
  | .error e => .error e
  | .ok (.evm chain _ _) =>
    if chain = c then Evm.transact chain w order else .error (.provider (.wrongKind c))
  | .ok _ => .error (.provider (.wrongKind c))

/-- What an order on TRON comes to with a node, awaited at the polls of a schedule. -/
def tronTransaction (v : Service σ) (node : Tron.Node) (schedule : List Tron.Poll) (w : Wallet)
    (order : Tron.Order) : Tron.Exchange :=
  match v.signer .tron with
  | .error e => ⟨[], some (.error e)⟩
  | .ok (.tron _) => Tron.transact node schedule w order
  | .ok _ => ⟨[], some (.error (.provider (.wrongKind .tron)))⟩

end Service
end Keyring
