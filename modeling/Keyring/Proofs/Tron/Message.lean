import Keyring.Proofs.Json.Text
import Keyring.Tron.Message

/-! The text of a request read back. Whatever texts and numbers a request has, its text holds just its fields, each of
them once, and is read as the request itself. -/
namespace Keyring

namespace Json

theorem asUInt64?_ofUInt64 (n : UInt64) : asUInt64? (ofUInt64 n) = some n := by
  have hlt := n.toNat_lt
  rw [asUInt64?, asWord?, ofUInt64, asInt?, if_pos (by omega), Option.map_some, Option.map_some, Int.toNat_natCast,
    UInt64.ofNat_toNat]

theorem plain_ofUInt64 (n : UInt64) : (ofUInt64 n).Plain := by
  have hlt := n.toNat_lt
  rw [ofUInt64, Plain]
  omega

end Json

namespace Tron

namespace TransferRequest

theorem slots?_toJson (r : TransferRequest) : Json.slots? fieldNames r.toJson =
    some [.given (.string r.owner), .given (.string r.recipient), .given (.ofUInt64 r.amount),
      .given (.bool r.visible)] := by
  rfl

theorem ofJson?_toJson (r : TransferRequest) : ofJson? r.toJson = some r := by
  rw [ofJson?, slots?_toJson]
  simp only [Json.Slot.required, Json.asString?, Json.asUInt64?_ofUInt64, Json.asBool?]
  rfl

theorem plain_toJson (r : TransferRequest) : r.toJson.Plain := by
  simp [toJson, Json.Plain, Json.MembersPlain, Json.plain_ofUInt64]

end TransferRequest

namespace ContractCallRequest

theorem slots?_toJson (r : ContractCallRequest) : Json.slots? fieldNames r.toJson =
    some [.given (.string r.owner), .given (.string r.contract), .given (.string r.selector),
      .given (.string r.parameter), .given (.ofUInt64 r.feeLimit), .given (.ofUInt64 r.callValue),
      .given (.bool r.visible)] := by
  rfl

theorem ofJson?_toJson (r : ContractCallRequest) : ofJson? r.toJson = some r := by
  rw [ofJson?, slots?_toJson]
  simp only [Json.Slot.required, Json.asString?, Json.asUInt64?_ofUInt64, Json.asBool?]
  rfl

theorem plain_toJson (r : ContractCallRequest) : r.toJson.Plain := by
  simp [toJson, Json.Plain, Json.MembersPlain, Json.plain_ofUInt64]

end ContractCallRequest

end Tron
end Keyring
