import Keyring.Json.Reader
import Keyring.Tron.Transaction

/-! The messages exchanged with a node: the two kinds of request and what it answers. Nesting in a text is limited
to 127 levels in all. -/
namespace Keyring.Tron

/-- Asks for a transfer of coins. -/
structure TransferRequest where
  owner : String
  recipient : String
  amount : UInt64
  /-- Whether addresses are given as base-58 text. -/
  visible : Bool
deriving DecidableEq

/-- Asks for a call to a contract. -/
structure ContractCallRequest where
  owner : String
  contract : String
  selector : String
  parameter : String
  feeLimit : UInt64
  callValue : UInt64
  visible : Bool
deriving DecidableEq

/-- The answer to a request for a call to a contract. -/
structure ContractCallResponse where
  accepted : Bool
  code : String
  message : String
  transaction : Transaction

namespace TransferRequest

def fieldNames : List String := ["owner_address", "to_address", "amount", "visible"]

def toJson (r : TransferRequest) : Json :=
  .object [("owner_address", .string r.owner), ("to_address", .string r.recipient), ("amount", .ofUInt64 r.amount),
    ("visible", .bool r.visible)]

def ofJson? (v : Json) : Option TransferRequest :=
  match Json.slots? fieldNames v with
  | some [owner, recipient, amount, visible] => do
    let owner ← owner.required Json.asString?
    let recipient ← recipient.required Json.asString?
    let amount ← amount.required Json.asUInt64?
    let visible ← visible.required Json.asBool?
    some ⟨owner, recipient, amount, visible⟩
  | _ => none

end TransferRequest

namespace ContractCallRequest

def fieldNames : List String :=
  ["owner_address", "contract_address", "function_selector", "parameter", "fee_limit", "call_value", "visible"]

def toJson (r : ContractCallRequest) : Json :=
  .object [("owner_address", .string r.owner), ("contract_address", .string r.contract),
    ("function_selector", .string r.selector), ("parameter", .string r.parameter), ("fee_limit", .ofUInt64 r.feeLimit),
    ("call_value", .ofUInt64 r.callValue), ("visible", .bool r.visible)]

def ofJson? (v : Json) : Option ContractCallRequest :=
  match Json.slots? fieldNames v with
  | some [owner, contract, selector, parameter, feeLimit, callValue, visible] => do
    let owner ← owner.required Json.asString?
    let contract ← contract.required Json.asString?
    let selector ← selector.required Json.asString?
    let parameter ← parameter.required Json.asString?
    let feeLimit ← feeLimit.required Json.asUInt64?
    let callValue ← callValue.required Json.asUInt64?
    let visible ← visible.required Json.asBool?
    some ⟨owner, contract, selector, parameter, feeLimit, callValue, visible⟩
  | _ => none

end ContractCallRequest

namespace Transaction

/-- Its content lies inside one object. -/
def ofText? (s : String) : Option Transaction := (Json.parse? s).bind (ofJson? (Json.maxDepth - 1))

end Transaction

namespace ContractCallResponse

/-- Whether the call is accepted, a code and a message. -/
def ofResult? (v : Json) : Option (Bool × String × String) :=
  match Json.slots? ["result", "code", "message"] v with
  | some [accepted, code, message] => do
    let accepted ← accepted.orElse Json.asBool? false
    let code ← code.orElse Json.asString? ""
    let message ← message.orElse Json.asString? ""
    some (accepted, code, message)
  | _ => none

def ofJson? (v : Json) : Option ContractCallResponse :=
  match Json.slots? ["result", "transaction"] v with
  | some [result, transaction] => do
    let (accepted, code, message) ← result.orElse ofResult? (false, "", "")
    let transaction ← transaction.orElse (Transaction.ofJson? (Json.maxDepth - 2)) Transaction.empty
    some ⟨accepted, code, message, transaction⟩
  | _ => none

def ofText? (s : String) : Option ContractCallResponse := (Json.parse? s).bind ofJson?

end ContractCallResponse
end Keyring.Tron
