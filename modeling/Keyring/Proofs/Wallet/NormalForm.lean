import Keyring.Proofs.Wallet.Record

/-! The stored form of wallets as a normal form. A wallet can be written in many ways: with its fields in any order or
in an array, with others among them, with another spelling of its identifier, and with times in any zone. What is
stored of it does not depend on that, so equal wallets have equal bytes, and no others do. The same goes for views. -/
namespace Keyring

/-- What is written of `a` is read as `a`, by which it is told from everything else that is written, and it is the only
one among the texts of `a` that is written. -/
structure NormalForm {α β : Type} (write : α → β) (read : β → Option α) (a : α) : Prop where
  back : read (write a) = some a
  again : ∀ b, read (write a) = some b → write b = write a
  unique : ∀ b, write b = write a ↔ b = a
  single : ∀ t b, read t = some a → t = write b → t = write a

theorem NormalForm.of_inverse {α β : Type} {write : α → β} {read : β → Option α}
    (h : ∀ a, read (write a) = some a) (a : α) : NormalForm write read a where
  back := h a
  again := by
    intro b hb
    rw [h a, Option.some.injEq] at hb
    rw [hb]
  unique := by
    intro b
    refine ⟨fun hb => ?_, congrArg write⟩
    have hread := congrArg read hb
    rwa [h, h, Option.some.injEq] at hread
  single := by
    rintro t b ht rfl
    rw [h b, Option.some.injEq] at ht
    rw [ht]

/-! ### Views -/

namespace WalletView

theorem ofJson?_toJson (w : WalletView) : ofJson? w.toJson = some w := by
  obtain ⟨id, address, publicKey, chain, createdAt, deletedAt⟩ := w
  cases deletedAt with
  | none =>
    have hslots : Json.slots? fieldNames (toJson ⟨id, address, publicKey, chain, createdAt, none⟩) =
        some [.given (.ofUuid id), .given (.string address), .given (.string publicKey), .given (.ofChain chain),
          .given (.ofTimestamp createdAt), .absent] := rfl
    rw [ofJson?, hslots]
    simp only [Json.Slot.required, Json.asUuid?_ofUuid, Json.asString?, Json.asTimestamp?_ofTimestamp,
      Json.asChain?_ofChain]
    rfl
  | some t =>
    have hslots : Json.slots? fieldNames (toJson ⟨id, address, publicKey, chain, createdAt, some t⟩) =
        some [.given (.ofUuid id), .given (.string address), .given (.string publicKey), .given (.ofChain chain),
          .given (.ofTimestamp createdAt), .given (.ofOption .ofTimestamp (some t))] := rfl
    rw [ofJson?, hslots]
    simp only [Json.Slot.required, Json.asUuid?_ofUuid, Json.asString?, Json.asTimestamp?_ofTimestamp,
      Json.optional_ofTimestamp, Json.asChain?_ofChain]
    rfl

theorem plain_toJson (w : WalletView) : w.toJson.Plain := by
  rw [toJson]
  cases w.deletedAt <;>
    simp [Json.Plain, Json.MembersPlain, Json.ofUuid, Json.ofTimestamp, Json.ofChain]

theorem parse?_toText (w : WalletView) : Json.parse? w.toText = some w.toJson := Json.parse?_compact w.plain_toJson

theorem ofText?_toText (w : WalletView) : ofText? w.toText = some w := by
  rw [ofText?, parse?_toText, Option.bind_some, ofJson?_toJson]

/-- A time of deletion is in the text just when there is one. -/
theorem deleted_mem_iff (w : WalletView) :
    ∃ members, Json.parse? w.toText = some (.object members)
      ∧ ("deleted_at" ∈ members.map (·.1) ↔ w.deletedAt.isSome = true) := by
  refine ⟨_, w.parse?_toText, ?_⟩
  cases w.deletedAt <;> simp

end WalletView

/-! ### Other spellings -/

/-- A text is read as an instant, in whatever zone it is given. -/
def Timestamp.Spells (s : String) (t : Timestamp) : Prop := parse? s = some t

namespace Json.Slot

/-- Two slots are the same, or hold two texts that spell the same. -/
inductive Respelled {α : Type} (Spells : String → α → Prop) : Slot → Slot → Prop
  | same (slot : Slot) : Respelled Spells slot slot
  | texts {s t : String} {a : α} (hs : Spells s a) (ht : Spells t a) :
    Respelled Spells (given (string s)) (given (string t))

/-- Two ways to give nothing for a field that may be null. -/
def Vacant (slot : Slot) : Prop := slot = absent ∨ slot = given null

theorem Respelled.required {α : Type} {Spells : String → α → Prop} {read : String → Option α}
    (hread : ∀ s a, Spells s a → read s = some a) {slot slot' : Slot} (h : Respelled Spells slot slot') :
    slot.required (fun v => (asString? v).bind read) = slot'.required fun v => (asString? v).bind read := by
  cases h with
  | same => rfl
  | texts hs ht => exact (hread _ _ hs).trans (hread _ _ ht).symm

theorem Respelled.optional {α : Type} {Spells : String → α → Prop} {read : String → Option α}
    (hread : ∀ s a, Spells s a → read s = some a) {slot slot' : Slot} (h : Respelled Spells slot slot') :
    slot.optional (fun v => (asString? v).bind read) = slot'.optional fun v => (asString? v).bind read := by
  cases h with
  | same => rfl
  | texts hs ht => exact congrArg (Option.map some) ((hread _ _ hs).trans (hread _ _ ht).symm)

theorem Vacant.optional {α : Type} {read : Json → Option α} {slot : Slot} (h : slot.Vacant) :
    slot.optional read = some none := by
  rcases h with rfl | rfl <;> rfl

end Json.Slot

namespace Wallet

open Json (Slot)

/-- The slots of two records give one wallet, but for the spelling of its identifier and its times. -/
inductive Respelled : List Slot → List Slot → Prop
  | fields {id id' address publicKey privateKey createdAt createdAt' deletedAt deletedAt' chain : Slot}
    (hid : id.Respelled Uuid.Spells id') (hcreated : createdAt.Respelled Timestamp.Spells createdAt')
    (hdeleted : deletedAt.Respelled Timestamp.Spells deletedAt' ∨ (deletedAt.Vacant ∧ deletedAt'.Vacant)) :
    Respelled [id, address, publicKey, privateKey, createdAt, deletedAt, chain]
      [id', address, publicKey, privateKey, createdAt', deletedAt', chain]

/-- Two texts hold records with the same fields, in whatever order or form and whatever stands between them, but for
the spelling of the identifier and the times. -/
def SameRecord (s s' : String) : Prop :=
  ∃ v v' slots slots', Json.parse? s = some v ∧ Json.parse? s' = some v' ∧ v.slots? fieldNames = some slots
    ∧ v'.slots? fieldNames = some slots' ∧ Respelled slots slots'

theorem SameRecord.ofText? {s s' : String} (h : SameRecord s s') : ofText? s = ofText? s' := by
  obtain ⟨v, v', slots, slots', hv, hv', hslots, hslots', h⟩ := h
  rw [Wallet.ofText?, Wallet.ofText?, hv, hv', Option.bind_some, Option.bind_some, ofJson?, ofJson?, hslots, hslots']
  cases h with
  | @fields id id' address publicKey privateKey createdAt createdAt' deletedAt deletedAt' chain hid hcreated hdeleted =>
    have hid : id.required Json.asUuid? = id'.required Json.asUuid? :=
      hid.required fun s a (ha : Uuid.Spells s a) => show Uuid.parse? s = some a from Uuid.parse?_eq_some_iff.2 ha
    have hcreated : createdAt.required Json.asTimestamp? = createdAt'.required Json.asTimestamp? :=
      hcreated.required fun _ _ ht => ht
    have hdeleted : deletedAt.optional Json.asTimestamp? = deletedAt'.optional Json.asTimestamp? := by
      rcases hdeleted with h | ⟨h, h'⟩
      · exact h.optional fun _ _ ht => ht
      · rw [h.optional, h'.optional]
    simp only [hid, hcreated, hdeleted]

/-- Whatever text a wallet is read from, what is written of it is its normal form: read back it gives the wallet, and
written again the same text; no other wallet is written so, and nothing else is written of this one. Another spelling
of the identifier and of the times makes no difference to what is stored. The same holds for the view of the wallet,
which has a time of deletion in its text just when the wallet is deleted. -/
theorem ofText?_normalForm {s : String} {w : Wallet} (h : ofText? s = some w) :
    NormalForm toText ofText? w ∧ NormalForm toBytes ofBytes? w
    ∧ (∀ s', SameRecord s s' → (ofText? s').map toBytes = some w.toBytes)
    ∧ NormalForm WalletView.toText WalletView.ofText? w.view
    ∧ ∃ members, Json.parse? w.view.toText = some (.object members)
      ∧ ("deleted_at" ∈ members.map (·.1) ↔ w.isDeleted = true) := by
  refine ⟨.of_inverse ofText?_toText w, .of_inverse ofBytes?_toBytes w, fun s' hsame => ?_,
    .of_inverse WalletView.ofText?_toText w.view, w.view.deleted_mem_iff⟩
  rw [← hsame.ofText?, h, Option.map_some]

/-- A record in an array, with a leap second in another zone and the identifier under its longest name. -/
def sampleRecord : String :=
  "[\"URN:UUID:0000000A-1111-4222-8333-0000000000ab\",\"T\\u0041\\n\",\"0x04ab\",\"0x01\"," ++
    "\"2016-12-31T18:59:60.5-05:00\",null,\"TRON\"]"

def sampleStored : String :=
  "\x7b\"uuid\":\"0000000a-1111-4222-8333-0000000000ab\",\"address\":\"TA\\n\",\"public_key\":\"0x04ab\"," ++
    "\"private_key\":\"0x01\",\"created_at\":\"2016-12-31T23:59:60.500Z\",\"deleted_at\":null," ++
    "\"blockchain\":\"TRON\"\x7d"

def sampleWallet : Wallet where
  id := ⟨0x0000000a1111422283330000000000ab, by decide⟩
  address := "TA\n"
  publicKey := "0x04ab"
  privateKey := "0x01"
  createdAt := { second := 1483228799, nano := 1500000000 }
  deletedAt := none
  chain := .tron

theorem ofText?_normalForm_sample :
    ofText? sampleRecord = some sampleWallet ∧ sampleWallet.toText = sampleStored
    ∧ NormalForm toText ofText? sampleWallet := by
  have hread : ofText? sampleRecord = some sampleWallet := by decide +kernel
  exact ⟨hread, by decide +kernel, (ofText?_normalForm hread).1⟩

end Wallet
end Keyring
