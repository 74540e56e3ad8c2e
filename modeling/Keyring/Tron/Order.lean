import Keyring.Amount
import Keyring.Json.Fields
import Keyring.Token
import Keyring.Tron.Address

/-! Orders for a transfer on TRON, as a caller gives them, and the transfers that orders without fault stand for. -/
namespace Keyring.Tron

structure Order where
  kind : AssetKind
  recipient : String
  amount : String
  contract : Option String
  feeLimit : UInt64
  /-- Whether the order is for the test network. -/
  isTest : Bool
deriving DecidableEq

/-- A checked order. -/
inductive Transfer where
  | coin (amount : UInt64)
  | token (contract parameter : String) (feeLimit : UInt64)
deriving DecidableEq

/-- The arguments of a token transfer as digits, without the selector. -/
def transferParameter (recipient : String) (amount : Nat) : Except Error String :=
  (Address.parse recipient).map fun account => Hex.encode (Token.arguments account amount)

namespace Order

/-- An amount of coins fits in 64 bits. -/
def checkCoin (o : Order) : Except Error Transfer := do
  let amount ← Amount.parse o.amount
  if amount < 2 ^ 64 then return .coin (.ofNat amount) else throw .invalidAmount

def checkToken (o : Order) : Except Error Transfer := do
  let contract ← Error.invalidContractAddress.ifNone (o.contract.filter Keyring.Address.isTron)
  if o.feeLimit = 0 then throw .invalidGasSettings
  let amount ← Amount.parse o.amount
  let parameter ← transferParameter o.recipient amount
  return .token contract parameter o.feeLimit

/-- The pattern of the recipient comes first, then what the kind of asset asks for. -/
def check (o : Order) : Except Error Transfer :=
  if Keyring.Address.isTron o.recipient then
    match o.kind with
    | .coin => o.checkCoin
    | .token => o.checkToken
  else .error .invalidAddress

def fieldNames : List String := ["type", "recipient", "amount", "contract_address", "fee_limit", "is_test"]

def toJson (o : Order) : Json :=
  .object [("type", .ofKind o.kind), ("recipient", .string o.recipient), ("amount", .string o.amount),
    ("contract_address", .ofOption .string o.contract), ("fee_limit", .ofUInt64 o.feeLimit),
    ("is_test", .bool o.isTest)]

def ofJson? (v : Json) : Option Order :=
  match Json.slots? fieldNames v with
  | some [kind, recipient, amount, contract, feeLimit, isTest] => do
    let kind ← kind.required Json.asKind?
    let recipient ← recipient.required Json.asString?
    let amount ← amount.required Json.asString?
    let contract ← contract.orElse (Json.Slot.nullable Json.asString?) none
    let feeLimit ← feeLimit.orElse Json.asUInt64? 0
    let isTest ← isTest.orElse Json.asBool? false
    some ⟨kind, recipient, amount, contract, feeLimit, isTest⟩
  | _ => none

end Order
end Keyring.Tron
