import Keyring.Amount
import Keyring.Evm.Account
import Keyring.Json.Fields

/-! Orders for a transfer on a chain of the Ethereum family, as a caller gives them, and the transfers that orders
without fault stand for. -/
namespace Keyring.Evm

structure Order where
  kind : AssetKind
  recipient : String
  amount : String
  contract : Option String
  network : Int64
  nonce : Int64
  maxPriorityFee : String
  maxFee : String
  gas : UInt64
deriving DecidableEq

/-- A checked order. A transfer of tokens has a contract, a transfer of coins has none. -/
structure Transfer where
  recipient : Account
  contract : Option Account
  amount : Nat
  chainId : Nat
  nonce : Nat
  gas : Nat
  maxFee : Nat
  maxPriorityFee : Nat
deriving DecidableEq

def parseAccount (fault : Error) (s : String) : Except Error Account :=
  match Account.parse? s with
  | some a => .ok a
  | none => .error fault

namespace Order

/-- The contract of an order; it is not looked at when coins are moved. -/
def checkContract (o : Order) : Except Error (Option Account) :=
  match o.kind, o.contract with
  | .coin, _ => .ok none
  | .token, none => .error .invalidContractAddress
  | .token, some s => (parseAccount .invalidContractAddress s).map some

/-- The checks are made in the order of the lines, and the first fault is the answer. -/
def check (o : Order) : Except Error Transfer := do
  let recipient ← parseAccount .invalidAddress o.recipient
  let contract ← o.checkContract
  let amount ← Amount.parse o.amount
  let maxFee ← Amount.parseFee o.maxFee
  let maxPriorityFee ← Amount.parseFee o.maxPriorityFee
  if o.gas = 0 then throw .invalidGasSettings
  if o.network < 1 then throw .invalidNetwork
  if o.nonce < 0 then throw .invalidNonce
  return ⟨recipient, contract, amount, o.network.toNatClampNeg, o.nonce.toNatClampNeg, o.gas.toNat, maxFee,
    maxPriorityFee⟩

def fieldNames : List String :=
  ["type", "recipient", "amount", "contract_address", "network_id", "nonce", "max_priority_fee_per_gas",
    "max_fee_per_gas", "gas"]

def toJson (o : Order) : Json :=
  .object [("type", .ofKind o.kind), ("recipient", .string o.recipient), ("amount", .string o.amount),
    ("contract_address", .ofOption .string o.contract), ("network_id", .ofInt64 o.network), ("nonce", .ofInt64 o.nonce),
    ("max_priority_fee_per_gas", .string o.maxPriorityFee), ("max_fee_per_gas", .string o.maxFee),
    ("gas", .ofUInt64 o.gas)]

def ofJson? (v : Json) : Option Order :=
  match Json.slots? fieldNames v with
  | some [kind, recipient, amount, contract, network, nonce, maxPriorityFee, maxFee, gas] => do
    let kind ← kind.required Json.asKind?
    let recipient ← recipient.required Json.asString?
    let amount ← amount.required Json.asString?
    let contract ← contract.orElse (Json.Slot.nullable Json.asString?) none
    let network ← network.required Json.asInt64?
    let nonce ← nonce.required Json.asInt64?
    let maxPriorityFee ← maxPriorityFee.required Json.asString?
    let maxFee ← maxFee.required Json.asString?
    let gas ← gas.required Json.asUInt64?
    some ⟨kind, recipient, amount, contract, network, nonce, maxPriorityFee, maxFee, gas⟩
  | _ => none

end Order
end Keyring.Evm
