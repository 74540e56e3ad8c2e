import Keyring.Proofs.Json.Canonical
import Keyring.Proofs.Tron.Signing
import Keyring.Tron.Message

/-! Transactions written and read back. A field that is empty is left out of the text, and what is left out is read as
empty, so a transaction comes back from its text as it was, as long as its raw data do. They do if they are in canonical
form, are not null and hold no floats. That is what reading leaves of raw data in which nothing is taken for a quote,
and signing does not touch them. -/
namespace Keyring

namespace Json

/-! ### Objects with fields left out -/

/-- The members of an object, of which a field with nothing to show is left out. -/
def written (fields : List (String × Option Json)) : List (String × Json) :=
  fields.flatMap fun f => f.2.toList.map fun v => (f.1, v)

def Slot.ofField : Option Json → Slot
  | none => absent
  | some v => given v

theorem written_nil : written [] = [] := rfl

theorem written_cons (name : String) (field : Option Json) (fields : List (String × Option Json)) :
    written ((name, field) :: fields) = field.toList.map (fun v => (name, v)) ++ written fields :=
  List.flatMap_cons

theorem mem_written {name : String} {v : Json} {fields : List (String × Option Json)} :
    (name, v) ∈ written fields ↔ (name, some v) ∈ fields := by
  induction fields with
  | nil => simp [written_nil]
  | cons f rest ih =>
    obtain ⟨name', field⟩ := f
    rw [written_cons, List.mem_append, ih, List.mem_cons]
    refine or_congr_left ?_
    cases field <;> simp

theorem sublist_keys_written (fields : List (String × Option Json)) :
    ((written fields).map (·.1)).Sublist (fields.map (·.1)) := by
  induction fields with
  | nil => exact .slnil
  | cons f rest ih =>
    obtain ⟨name, field⟩ := f
    rw [written_cons, List.map_append, List.map_cons]
    cases field with
    | none => exact ih.cons _
    | some v => exact ih.cons_cons _

theorem filter_written_of_notMem {name : String} {fields : List (String × Option Json)}
    (h : name ∉ fields.map (·.1)) : (written fields).filter (fun m => m.1 == name) = [] := by
  refine List.filter_eq_nil_iff.2 fun m hm hname => h ?_
  rw [← beq_iff_eq.1 hname]
  exact (sublist_keys_written fields).subset (List.mem_map_of_mem hm)

/-- Each field is found under its name, or is absent if it is left out. -/
theorem member?_written {name : String} {field : Option Json} {fields : List (String × Option Json)}
    (hnames : (fields.map (·.1)).Nodup) (h : (name, field) ∈ fields) :
    member? (written fields) name = some (.ofField field) := by
  induction fields with
  | nil => cases h
  | cons f rest ih =>
    obtain ⟨hfirst, hrest⟩ := List.nodup_cons.1 hnames
    obtain ⟨name', field'⟩ := f
    rw [member?, written_cons, List.filter_append]
    rcases List.mem_cons.1 h with heq | h
    · cases heq
      rw [filter_written_of_notMem hfirst, List.append_nil]
      cases field <;> simp [Slot.ofField]
    · have hne : name' ≠ name := fun heq => hfirst (heq ▸ List.mem_map_of_mem (f := (·.1)) h)
      have hnone : (field'.toList.map fun v => (name', v)).filter (fun m => m.1 == name) = [] := by
        cases field' <;> simp [hne]
      rw [hnone, List.nil_append]
      exact ih hrest h

theorem slots?_written {fields : List (String × Option Json)} (hnames : (fields.map (·.1)).Nodup) :
    slots? (fields.map (·.1)) (object (written fields)) = some (fields.map fun f => .ofField f.2) := by
  have hall : ∀ part, part ⊆ fields →
      (part.map (·.1)).mapM (member? (written fields)) = some (part.map fun f => .ofField f.2) := by
    intro part hpart
    induction part with
    | nil => rfl
    | cons f rest ih =>
      obtain ⟨hf, hrest⟩ := List.cons_subset.1 hpart
      rw [List.map_cons, List.mapM_cons, member?_written hnames hf, ih hrest]
      rfl
  exact hall fields (List.Subset.refl _)

theorem asStrings?_map_string (texts : List String) : asStrings? (array (texts.map string)) = some texts := by
  induction texts with
  | nil => rfl
  | cons s rest ih =>
    rw [asStrings?] at ih ⊢
    rw [List.map_cons, List.mapM_cons, ih]
    rfl

theorem nullable_eq_some_iff {α : Type} {read : Json → Option α} {v : Json} {o : Option α} :
    Slot.nullable read v = some o ↔ (v = null ∧ o = none) ∨ (v ≠ null ∧ ∃ a, read v = some a ∧ o = some a) := by
  cases v <;> simp [Slot.nullable, eq_comm]

end Json

namespace Tron.Transaction

open Json (Slot)

/-! ### The text of a transaction -/

def textField (text : String) : Option Json := if text = "" then none else some (.string text)

def signatureField (signatures : List String) : Option Json :=
  if signatures = [] then none else some (.array (signatures.map Json.string))

theorem textField_eq_some_iff {text : String} {v : Json} :
    textField text = some v ↔ text ≠ "" ∧ v = .string text := by
  rw [textField, Option.ite_none_left_eq_some, Option.some.injEq, eq_comm (a := v)]

theorem signatureField_eq_some_iff {signatures : List String} {v : Json} :
    signatureField signatures = some v ↔ signatures ≠ [] ∧ v = .array (signatures.map Json.string) := by
  rw [signatureField, Option.ite_none_left_eq_some, Option.some.injEq, eq_comm (a := v)]

/-- The fields in the order of their names, each with what there is to show of it. -/
def fields (tx : Transaction) : List (String × Option Json) :=
  [("txID", textField tx.id), ("raw_data", tx.rawData), ("raw_data_hex", textField tx.rawDataHex),
    ("visible", some (.bool tx.visible)), ("signature", signatureField tx.signatures), ("Error", textField tx.error)]

theorem textMember_eq (name text : String) :
    textMember name text = (textField text).toList.map fun v => (name, v) := by
  rw [textMember, textField]
  split <;> rfl

theorem rawDataMember_eq (rawData : Option Json) :
    rawDataMember rawData = rawData.toList.map fun v => ("raw_data", v) := by
  cases rawData <;> rfl

theorem signatureMember_eq (signatures : List String) :
    signatureMember signatures = (signatureField signatures).toList.map fun v => ("signature", v) := by
  cases signatures <;> rfl

theorem toJson_eq (tx : Transaction) : tx.toJson = .object (Json.written tx.fields) := by
  simp only [toJson, fields, Json.written_cons, Json.written_nil, textMember_eq, rawDataMember_eq, signatureMember_eq,
    List.append_assoc, List.append_nil]
  rfl

theorem slots?_toJson (tx : Transaction) :
    Json.slots? fieldNames tx.toJson = some (tx.fields.map fun f => .ofField f.2) := by
  rw [toJson_eq]
  exact Json.slots?_written (show fieldNames.Nodup by decide)

theorem orElse_textField (text : String) : (Slot.ofField (textField text)).orElse Json.asString? "" = some text := by
  rw [textField]
  split
  · next h => exact congrArg some h.symm
  · rfl

theorem orElse_signatureField (signatures : List String) :
    (Slot.ofField (signatureField signatures)).orElse Json.asStrings? [] = some signatures := by
  rw [signatureField]
  split
  · next h => exact congrArg some h.symm
  · exact Json.asStrings?_map_string signatures

theorem plain_textField {text : String} {v : Json} (h : textField text = some v) : v.Plain := by
  obtain ⟨-, rfl⟩ := textField_eq_some_iff.1 h
  trivial

theorem plain_signatureField {signatures : List String} {v : Json} (h : signatureField signatures = some v) :
    v.Plain := by
  obtain ⟨-, rfl⟩ := signatureField_eq_some_iff.1 h
  refine Json.itemsPlain_iff.2 fun v hv => ?_
  obtain ⟨s, -, rfl⟩ := List.mem_map.1 hv
  trivial

section

variable {tx : Transaction} (h : ∀ w, tx.rawData = some w → w.Plain)
include h

theorem plain_toJson : tx.toJson.Plain := by
  rw [toJson_eq]
  refine Json.membersPlain_iff.2 fun m hm => ?_
  have hfield := Json.mem_written.1 hm
  simp only [fields, List.mem_cons, Prod.mk.injEq, List.not_mem_nil, or_false] at hfield
  rcases hfield with ⟨-, hv⟩ | ⟨-, hv⟩ | ⟨-, hv⟩ | ⟨-, hv⟩ | ⟨-, hv⟩ | ⟨-, hv⟩
  · exact plain_textField hv.symm
  · exact h m.2 hv.symm
  · exact plain_textField hv.symm
  · rw [Option.some.inj hv]
    trivial
  · exact plain_signatureField hv.symm
  · exact plain_textField hv.symm

theorem parse?_toText : Json.parse? tx.toText = some tx.toJson := Json.parse?_compact (plain_toJson h)

end

/-- The raw data of a transaction stay what they are on the way through their text. -/
def Stable (tx : Transaction) : Prop :=
  ∀ w, tx.rawData = some w → w ≠ .null ∧ w.Plain ∧ w.Settled ∧ w.depth ≤ Json.maxDepth - 1

namespace Stable

variable {tx : Transaction} (h : tx.Stable)
include h

theorem plain : ∀ w, tx.rawData = some w → w.Plain := fun w hw => (h w hw).2.1

theorem orElse_rawData :
    (Slot.ofField tx.rawData).orElse (Slot.nullable (Json.asValue? (Json.maxDepth - 1))) none = some tx.rawData := by
  cases hraw : tx.rawData with
  | none => rfl
  | some w =>
    obtain ⟨hnull, -, hsettled, hdepth⟩ := h w hraw
    exact Json.nullable_eq_some_iff.2 (.inr ⟨hnull, w, Json.asValue?_of_settled hsettled hdepth, rfl⟩)

theorem ofJson?_toJson : ofJson? (Json.maxDepth - 1) tx.toJson = some tx := by
  rw [ofJson?, slots?_toJson]
  simp only [fields, List.map_cons, List.map_nil, orElse_textField, h.orElse_rawData, orElse_signatureField]
  rfl

theorem ofText?_toText : ofText? tx.toText = some tx := by
  rw [ofText?, parse?_toText h.plain, Option.bind_some, h.ofJson?_toJson]

theorem appended (entries : List String) : (tx.appended entries).Stable := h

end Stable

/-- The members of an object show a transaction: a field is among them, under its own name, just when there is
something in it, and `visible` always is; nothing else is. -/
structure Shows (members : List (String × Json)) (tx : Transaction) : Prop where
  names : (members.map (·.1)).Sublist fieldNames
  id : ∀ v, ("txID", v) ∈ members ↔ tx.id ≠ "" ∧ v = .string tx.id
  rawData : ∀ v, ("raw_data", v) ∈ members ↔ tx.rawData = some v
  rawDataHex : ∀ v, ("raw_data_hex", v) ∈ members ↔ tx.rawDataHex ≠ "" ∧ v = .string tx.rawDataHex
  visible : ∀ v, ("visible", v) ∈ members ↔ v = .bool tx.visible
  signatures : ∀ v, ("signature", v) ∈ members ↔ tx.signatures ≠ [] ∧ v = .array (tx.signatures.map Json.string)
  error : ∀ v, ("Error", v) ∈ members ↔ tx.error ≠ "" ∧ v = .string tx.error

theorem shows_written (tx : Transaction) : Shows (Json.written tx.fields) tx where
  names := Json.sublist_keys_written tx.fields
  id v := by
    rw [Json.mem_written, ← textField_eq_some_iff]
    simp [fields, eq_comm]
  rawData v := by
    rw [Json.mem_written]
    simp [fields, eq_comm]
  rawDataHex v := by
    rw [Json.mem_written, ← textField_eq_some_iff]
    simp [fields, eq_comm]
  visible v := by
    rw [Json.mem_written]
    simp [fields]
  signatures v := by
    rw [Json.mem_written, ← signatureField_eq_some_iff]
    simp [fields, eq_comm]
  error v := by
    rw [Json.mem_written, ← textField_eq_some_iff]
    simp [fields, eq_comm]

/-! ### What is read of a text -/

/-- The raw data as they stand in a text, if it has any. -/
def givenRawData? (body : String) : Option Json :=
  match (Json.parse? body).bind (Json.slots? fieldNames) with
  | some [_, .given u, _, _, _, _] => some u
  | _ => none

variable {body : String} {tx : Transaction}

/-- A transaction has no raw data if its text has none or null, and otherwise what is read of those in the text. -/
theorem rawData_cases (h : ofText? body = some tx) :
    (tx.rawData = none ∧ ∀ u, givenRawData? body = some u → u = .null)
      ∨ ∃ u w, givenRawData? body = some u ∧ u ≠ .null ∧ Json.asValue? (Json.maxDepth - 1) u = some w
        ∧ tx.rawData = some w := by
  obtain ⟨v, hv, h⟩ := Option.bind_eq_some_iff.1 h
  rw [ofJson?] at h
  split at h
  · next id rawData rawDataHex visible signatures error hslots =>
    simp only [Option.bind_eq_bind, Option.bind_eq_some_iff, Option.some.injEq] at h
    obtain ⟨-, -, o, ho, -, -, -, -, -, -, -, -, rfl⟩ := h
    rw [givenRawData?, hv, Option.bind_some, hslots]
    cases rawData with
    | given u =>
      rcases Json.nullable_eq_some_iff.1 ho with ⟨rfl, rfl⟩ | ⟨hnull, w, hvalue, rfl⟩
      · exact .inl ⟨rfl, fun u hu => (Option.some.inj hu).symm⟩
      · exact .inr ⟨u, w, rfl, hnull, hvalue, rfl⟩
    | absent | short => exact .inl ⟨(Option.some.inj ho).symm, nofun⟩
  · cases h

theorem rawData_eq_none_iff (h : ofText? body = some tx) :
    tx.rawData = none ↔ ∀ u, givenRawData? body = some u → u = .null := by
  rcases rawData_cases h with ⟨hnone, hgiven⟩ | ⟨u, w, hu, hnull, -, hsome⟩
  · exact iff_of_true hnone hgiven
  · rw [hsome, hu]
    exact iff_of_false nofun fun hgiven => hnull (hgiven u rfl)

theorem asValue?_of_rawData (h : ofText? body = some tx) {w : Json} (hw : tx.rawData = some w) :
    ∃ u, givenRawData? body = some u ∧ u ≠ .null ∧ Json.asValue? (Json.maxDepth - 1) u = some w := by
  rcases rawData_cases h with ⟨hnone, -⟩ | ⟨u, w', hu, hnull, hvalue, hsome⟩
  · cases hw.symm.trans hnone
  · obtain rfl := Option.some.inj (hw.symm.trans hsome)
    exact ⟨u, hu, hnull, hvalue⟩

theorem stable_of_ofText? (h : ofText? body = some tx)
    (hraw : ∀ u, givenRawData? body = some u → u.Plain ∧ u.Unquoted) : tx.Stable := by
  intro w hw
  obtain ⟨u, hu, hnull, hvalue⟩ := asValue?_of_rawData h hw
  obtain ⟨hplain, hunquoted⟩ := hraw u hu
  have hkept := Json.asValue?_kept hunquoted hvalue
  refine ⟨?_, hkept.plain hplain, hkept.settled hunquoted,
    Nat.le_trans hkept.depth_le (Json.depth_le_of_asValue? hvalue)⟩
  rintro rfl
  cases hkept
  exact hnull rfl

theorem givenRawData?_toText (h : ∀ w, tx.rawData = some w → w.Plain) : givenRawData? tx.toText = tx.rawData := by
  rw [givenRawData?, parse?_toText h, Option.bind_some, slots?_toJson]
  cases hraw : tx.rawData <;> simp [fields, hraw, Slot.ofField]

/-! ### Call after call with any keys -/

/-- What a call with a key adds to the signatures of a transaction: one entry, or nothing if the call fails. -/
def added (tx : Transaction) (key : PrivateKey) : List String := (tx.raw >>= entry key).toOption.toList

/-- The transaction after a call with each of the keys, one after the other. -/
def signedBy (keys : List PrivateKey) (tx : Transaction) : Transaction := keys.foldl (fun tx key => (call key tx).2) tx

theorem appended_nil (tx : Transaction) : tx.appended [] = tx := by
  rw [appended, List.append_nil]

theorem sign_eq_map (key : PrivateKey) (tx : Transaction) :
    tx.sign key = (tx.raw >>= entry key).map fun text => tx.appended [text] := by
  cases hraw : tx.raw with
  | error e => rw [sign_eq, hraw, error_bind, error_bind, Except.map]
  | ok raw => rw [sign_of_raw hraw, ok_bind]

theorem snd_call (key : PrivateKey) (tx : Transaction) : (call key tx).2 = tx.appended (tx.added key) := by
  rw [call_eq, sign_eq_map, added]
  cases tx.raw >>= entry key with
  | error e => rw [Except.map, Except.toOption, Option.toList_none, appended_nil]
  | ok text => rw [Except.map, Except.toOption, Option.toList_some]

theorem rawDataHex_appended (tx : Transaction) (entries : List String) :
    (tx.appended entries).rawDataHex = tx.rawDataHex := rfl

theorem added_appended (tx : Transaction) (entries : List String) : (tx.appended entries).added = tx.added := by
  funext key
  rw [added, added, raw, raw, rawDataHex_appended]

/-- No call changes what the next one adds. -/
theorem signedBy_eq (keys : List PrivateKey) (tx : Transaction) :
    signedBy keys tx = tx.appended (keys.flatMap tx.added) := by
  induction keys generalizing tx with
  | nil => exact tx.appended_nil.symm
  | cons key keys ih =>
    rw [signedBy, List.foldl_cons, ← signedBy, snd_call, ih, added_appended, appended_appended, List.flatMap_cons]

/-! ### There and back -/

/-- A transaction comes back from its text, and its text from there; the text shows it and nothing else. -/
structure ComesBack (tx : Transaction) : Prop where
  back : ofText? tx.toText = some tx
  again : ∀ tx', ofText? tx.toText = some tx' → tx'.toText = tx.toText
  shown : ∃ members, Json.parse? tx.toText = some (.object members) ∧ Shows members tx

theorem Stable.comesBack {tx : Transaction} (h : tx.Stable) : ComesBack tx where
  back := h.ofText?_toText
  again tx' htx' := by
    rw [h.ofText?_toText, Option.some.injEq] at htx'
    rw [htx']
  shown := ⟨_, (parse?_toText h.plain).trans (congrArg some tx.toJson_eq), shows_written tx⟩

/-- Whatever text a transaction is read from, if its raw data hold no number but integers and nothing in them is taken
for a quote, they are kept, or there are none where the text has none or null. Calls with any keys then add their
entries in order behind the signatures that are there, and do nothing else, and the transaction comes back from its
text. -/
theorem comesBack_signedBy {body : String} {tx : Transaction} (h : ofText? body = some tx)
    (hraw : ∀ u, givenRawData? body = some u → u.Plain ∧ u.Unquoted) (keys : List PrivateKey) :
    (tx.rawData = none ↔ ∀ u, givenRawData? body = some u → u = .null)
    ∧ (∀ w, tx.rawData = some w → ∃ u, givenRawData? body = some u ∧ Json.Kept u w)
    ∧ signedBy keys tx = { tx with signatures := tx.signatures ++ keys.flatMap tx.added }
    ∧ ComesBack (signedBy keys tx) := by
  refine ⟨rawData_eq_none_iff h, fun w hw => ?_, signedBy_eq keys tx, ?_⟩
  · obtain ⟨u, hu, -, hvalue⟩ := asValue?_of_rawData h hw
    exact ⟨u, hu, Json.asValue?_kept (hraw u hu).2 hvalue⟩
  · rw [signedBy_eq]
    exact ((stable_of_ofText? h hraw).appended _).comesBack

/-- Raw data in which a key is given twice. -/
def sampleRawData : Json := .object [("b", .array [.int (-1), .null]), ("a", .int 7), ("b", .string "x")]

def sampleRecord : Json :=
  .object [("visible", .bool true), ("raw_data", sampleRawData), ("raw_data_hex", .string "0a02")]

def sampleBody : String :=
  "\x7b\"visible\":true,\"raw_data\":\x7b\"b\":[-1,null],\"a\":7,\"b\":\"x\"\x7d,\"raw_data_hex\":\"0a02\"\x7d"

def sampleText : String :=
  "\x7b\"raw_data\":\x7b\"a\":7,\"b\":\"x\"\x7d,\"raw_data_hex\":\"0a02\",\"visible\":true\x7d"

theorem comesBack_signedBy_sample :
    ∃ tx, ofText? sampleBody = some tx ∧ tx.toText = sampleText
      ∧ ComesBack (signedBy [Sample.key, Sample.key] tx) := by
  have hplain : sampleRawData.Plain := by simp [sampleRawData, Json.Plain, Json.MembersPlain, Json.ItemsPlain]
  have hunquoted : sampleRawData.Unquoted := by
    simp [sampleRawData, Json.Unquoted, Json.MembersUnquoted, Json.ItemsUnquoted, Json.isQuote, Json.quoteKey]
  have hparse : Json.parse? sampleBody = some sampleRecord := by
    rw [show sampleBody = sampleRecord.compact by decide +kernel]
    exact Json.parse?_compact ⟨trivial, hplain, trivial, trivial⟩
  have hgiven : givenRawData? sampleBody = some sampleRawData := by
    rw [givenRawData?, hparse]
    rfl
  obtain ⟨tx, htx, htext⟩ := Option.map_eq_some_iff.1
    (show (ofText? sampleBody).map toText = some sampleText by decide +kernel)
  refine ⟨tx, htx, htext, (comesBack_signedBy htx (fun u hu => ?_) [Sample.key, Sample.key]).2.2.2⟩
  obtain rfl := Option.some.inj (hgiven.symm.trans hu)
  exact ⟨hplain, hunquoted⟩

/-- Nothing but quotes is in the way: raw data with no number but integers are kept and come back just when nothing in
them is taken for one. -/
theorem unquoted_iff_comesBack {u w : Json} (h : ofText? body = some tx) (hu : givenRawData? body = some u)
    (hw : tx.rawData = some w) (hplain : u.Plain) : u.Unquoted ↔ Json.Kept u w ∧ ComesBack tx := by
  obtain ⟨u', hu', -, hread⟩ := asValue?_of_rawData h hw
  obtain rfl := Option.some.inj (hu.symm.trans hu')
  constructor
  · intro hunquoted
    refine ⟨Json.asValue?_kept hunquoted hread, (stable_of_ofText? h fun u' hu' => ?_).comesBack⟩
    obtain rfl := Option.some.inj (hu.symm.trans hu')
    exact ⟨hplain, hunquoted⟩
  · rintro ⟨hkept, hback⟩
    have hgiven : givenRawData? tx.toText = some w := by
      refine (givenRawData?_toText fun w' hw' => ?_).trans hw
      obtain rfl := Option.some.inj (hw.symm.trans hw')
      exact hkept.plain hplain
    obtain ⟨w', hw', -, hagain⟩ := asValue?_of_rawData hback.back hw
    obtain rfl := Option.some.inj (hgiven.symm.trans hw')
    exact (Json.unquoted_iff hread (Json.depth_le_of_asValue? hagain)).2 ⟨hkept, hagain⟩

/-- Raw data that quote null. -/
def quotedBody : String := "\x7b\"raw_data\":\x7b\"$serde_json::private::RawValue\":\"null\"\x7d\x7d"

/-- What is read of that: there are raw data, and they are null. -/
def quoted : Transaction := { empty with rawData := some .null }

theorem asValue?_quoting : Json.asValue? (Json.maxDepth - 1) (.quoting "null") = some .null := by
  have hdepth : (Json.quoting "null").depth ≤ Json.maxDepth - 1 := by decide
  have hfront : Json.isQuote [(Json.quoteKey, .string "null")] = true := by decide
  have hparse : Json.parse? "null" = some .null := Json.parse?_compact (v := .null) trivial
  have hquote : Json.ofQuote? "null".length "null" = some .null := by
    rw [show "null".length = 4 from rfl, Json.ofQuote?, hparse]
    rfl
  rw [Json.asValue?, if_pos hdepth, Json.quoting, Json.canonical?, if_pos hfront]
  exact hquote

/-- A quote is replaced by what its text says. If that is null, it is written as such, and what is read back has no raw
data any more. -/
theorem not_comesBack_of_quote :
    givenRawData? quotedBody = some (.quoting "null") ∧ (Json.quoting "null").Plain ∧ ofText? quotedBody = some quoted
    ∧ quoted.toText = "\x7b\"raw_data\":null,\"visible\":false\x7d"
    ∧ ofText? quoted.toText ≠ some quoted ∧ ¬ Json.Kept (.quoting "null") .null := by
  have hplain : (Json.quoting "null").Plain := by simp [Json.quoting, Json.Plain, Json.MembersPlain]
  have hparse : Json.parse? quotedBody = some (.object [("raw_data", .quoting "null")]) := by
    rw [show quotedBody = (Json.object [("raw_data", .quoting "null")]).compact by decide +kernel]
    exact Json.parse?_compact ⟨hplain, trivial⟩
  have hslots : Json.slots? fieldNames (.object [("raw_data", .quoting "null")]) =
      some [.absent, .given (.quoting "null"), .absent, .absent, .absent, .absent] := rfl
  have hread : ofText? quotedBody = some quoted := by
    have hnull : Json.quoting "null" ≠ .null := by simp [Json.quoting]
    have hvalue : Slot.nullable (Json.asValue? (Json.maxDepth - 1)) (.quoting "null") = some (some .null) :=
      Json.nullable_eq_some_iff.2 (.inr ⟨hnull, .null, asValue?_quoting, rfl⟩)
    rw [ofText?, hparse, Option.bind_some, ofJson?, hslots]
    simp only [Slot.orElse, hvalue]
    rfl
  have hback : (ofText? quoted.toText).map (·.rawData.isSome) = some false := by decide +kernel
  refine ⟨?_, hplain, hread, by decide +kernel, fun h => ?_, fun hkept => ?_⟩
  · rw [givenRawData?, hparse, Option.bind_some, hslots]
  · rw [h] at hback
    cases hback
  · cases hkept

end Tron.Transaction
end Keyring
