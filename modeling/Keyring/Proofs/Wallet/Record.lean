import Keyring.Proofs.Json.Bytes
import Keyring.Proofs.Json.Text
import Keyring.Proofs.Time.Rfc3339
import Keyring.Proofs.Uuid
import Keyring.Wallet.Record

/-! The stored form of a wallet read back: every field comes back as it was, whatever text it holds. Members that are
no field have no part in it, not even with bytes that are no text. -/
namespace Keyring

namespace Json

theorem asUuid?_ofUuid (id : Uuid) : asUuid? (ofUuid id) = some id := by
  rw [asUuid?, ofUuid, asString?, Option.bind_some, Uuid.parse?_toString]

theorem asTimestamp?_ofTimestamp (t : Timestamp) : asTimestamp? (ofTimestamp t) = some t := by
  rw [asTimestamp?, ofTimestamp, asString?, Option.bind_some, Timestamp.parse?_toString]

theorem asChain?_ofChain (c : Chain) : asChain? (ofChain c) = some c := by
  rw [asChain?, ofChain, asName?, Option.bind_some, Chain.ofTicker?_ticker]

theorem optional_ofTimestamp (t : Option Timestamp) :
    (Slot.given (ofOption ofTimestamp t)).optional asTimestamp? = some t := by
  cases t with
  | none => rfl
  | some t =>
    have hnull : Slot.nullable asTimestamp? (ofTimestamp t) = (asTimestamp? (ofTimestamp t)).map some := rfl
    rw [ofOption, Slot.optional, hnull, asTimestamp?_ofTimestamp, Option.map_some]

theorem member?_foreign {name k : String} (h : name ≠ k) (v : Json) (front back : List (String × Json)) :
    member? (front ++ (k, v) :: back) name = member? (front ++ back) name := by
  have hkey : (k == name) = false := beq_false_of_ne h.symm
  rw [member?, member?, List.filter_append, List.filter_append, List.filter_cons_of_neg (by simp [hkey])]

/-- A member under a name that a record does not have changes nothing, whatever it holds. -/
theorem slots?_foreign {names : List String} {k : String} (hk : k ∉ names) (v : Json)
    (front back : List (String × Json)) :
    slots? names (object (front ++ (k, v) :: back)) = slots? names (object (front ++ back)) := by
  rw [slots?, slots?]
  induction names with
  | nil => rfl
  | cons name names ih =>
    rw [List.mem_cons, not_or] at hk
    rw [List.mapM_cons, List.mapM_cons, member?_foreign (Ne.symm hk.1), ih hk.2]

end Json

namespace Wallet

theorem slots?_toJson (w : Wallet) : Json.slots? fieldNames w.toJson =
    some [.given (.ofUuid w.id), .given (.string w.address), .given (.string w.publicKey),
      .given (.string w.privateKey), .given (.ofTimestamp w.createdAt), .given (.ofOption .ofTimestamp w.deletedAt),
      .given (.ofChain w.chain)] := by
  rfl

theorem ofJson?_toJson (w : Wallet) : ofJson? w.toJson = some w := by
  rw [ofJson?, slots?_toJson]
  simp only [Json.Slot.required, Json.asUuid?_ofUuid, Json.asString?, Json.asTimestamp?_ofTimestamp,
    Json.optional_ofTimestamp, Json.asChain?_ofChain]
  rfl

theorem plain_toJson (w : Wallet) : w.toJson.Plain := by
  rw [toJson]
  cases w.deletedAt <;>
    simp [Json.Plain, Json.MembersPlain, Json.ofUuid, Json.ofTimestamp, Json.ofChain, Json.ofOption]

theorem ofText?_toText (w : Wallet) : ofText? w.toText = some w := by
  rw [ofText?, toText, Json.parse?_compact w.plain_toJson, Option.bind_some, ofJson?_toJson]

/-- The bytes of a text are read as the text. -/
theorem ofBytes?_toUTF8 (s : String) : ofBytes? s.toUTF8 = ofText? s := by
  rw [ofBytes?, ofText?, Json.parseBytes?_toUTF8]

/-- What is stored of a wallet gives the wallet back. -/
theorem ofBytes?_toBytes (w : Wallet) : ofBytes? w.toBytes = some w := by
  rw [toBytes, ofBytes?_toUTF8, ofText?_toText]

theorem toBytes_injective {v w : Wallet} (h : v.toBytes = w.toBytes) : v = w := by
  have := congrArg ofBytes? h
  rwa [ofBytes?_toBytes, ofBytes?_toBytes, Option.some.injEq] at this

/-- A member that is no field does not matter, whatever it holds. -/
theorem ofJson?_foreign {k : String} (hk : k ∉ fieldNames) (v : Json) (front back : List (String × Json)) :
    ofJson? (.object (front ++ (k, v) :: back)) = ofJson? (.object (front ++ back)) := by
  rw [ofJson?, ofJson?, Json.slots?_foreign hk]

-- A byte of no character, in a member that is no field.
example :
    (ofBytes? ("\x7b\"note\":\"".toUTF8 ++ ⟨#[0xff]⟩ ++
      ("\",\"uuid\":\"0000000a-1111-4222-8333-0000000000ab\",\"address\":\"T\",\"public_key\":\"\"," ++
        "\"private_key\":\"\",\"created_at\":\"2016-12-31T23:59:59Z\",\"blockchain\":\"BTC\"\x7d").toUTF8)).isSome =
      true := by
  decide +kernel

end Wallet
end Keyring
