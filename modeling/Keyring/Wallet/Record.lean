import Keyring.Json.Bytes
import Keyring.Json.Fields
import Keyring.Json.Printer
import Keyring.Wallet

/-! Wallets and their views as JSON records. The stored form of a wallet is the compact text of its record; a view
leaves the time of deletion out when there is none. -/
namespace Keyring

namespace Wallet

def fieldNames : List String :=
  ["uuid", "address", "public_key", "private_key", "created_at", "deleted_at", "blockchain"]

def toJson (w : Wallet) : Json :=
  .object [("uuid", .ofUuid w.id), ("address", .string w.address), ("public_key", .string w.publicKey),
    ("private_key", .string w.privateKey), ("created_at", .ofTimestamp w.createdAt),
    ("deleted_at", .ofOption .ofTimestamp w.deletedAt), ("blockchain", .ofChain w.chain)]

def ofJson? (v : Json) : Option Wallet :=
  match Json.slots? fieldNames v with
  | some [id, address, publicKey, privateKey, createdAt, deletedAt, chain] => do
    let id ← id.required Json.asUuid?
    let address ← address.required Json.asString?
    let publicKey ← publicKey.required Json.asString?
    let privateKey ← privateKey.required Json.asString?
    let createdAt ← createdAt.required Json.asTimestamp?
    let deletedAt ← deletedAt.optional Json.asTimestamp?
    let chain ← chain.required Json.asChain?
    some ⟨id, address, publicKey, privateKey, createdAt, deletedAt, chain⟩
  | _ => none

def toText (w : Wallet) : String := w.toJson.compact

def ofText? (s : String) : Option Wallet := (Json.parse? s).bind ofJson?

/-- The stored form. -/
def toBytes (w : Wallet) : ByteArray := w.toText.toUTF8

/-- Reads a stored form. Only the names of its members and the texts of its own fields need to be UTF-8. -/
def ofBytes? (bs : ByteArray) : Option Wallet := (Json.parseBytes? bs).bind ofJson?

end Wallet

namespace WalletView

def fieldNames : List String := ["id", "address", "public_key", "blockchain", "created_at", "deleted_at"]

def toJson (w : WalletView) : Json :=
  .object ([("id", .ofUuid w.id), ("address", .string w.address), ("public_key", .string w.publicKey),
    ("blockchain", .ofChain w.chain), ("created_at", .ofTimestamp w.createdAt)]
    ++ match w.deletedAt with
      | none => []
      | some t => [("deleted_at", .ofTimestamp t)])

def ofJson? (v : Json) : Option WalletView :=
  match Json.slots? fieldNames v with
  | some [id, address, publicKey, chain, createdAt, deletedAt] => do
    let id ← id.required Json.asUuid?
    let address ← address.required Json.asString?
    let publicKey ← publicKey.required Json.asString?
    let chain ← chain.required Json.asChain?
    let createdAt ← createdAt.required Json.asTimestamp?
    let deletedAt ← deletedAt.optional Json.asTimestamp?
    some ⟨id, address, publicKey, chain, createdAt, deletedAt⟩
  | _ => none

def toText (w : WalletView) : String := w.toJson.compact

def ofText? (s : String) : Option WalletView := (Json.parse? s).bind ofJson?

end WalletView
end Keyring
