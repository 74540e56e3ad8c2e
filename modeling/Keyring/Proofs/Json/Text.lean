import Keyring.Json.Reader
import Keyring.Proofs.Json.Literal

/-! The compact text of a value read back. Values with floats are left out, and so are integers beyond 64 bits and
what has no text at all; every other value comes back, with its members in their order and its keys as often as it
has them. -/
namespace Keyring.Json

mutual

/-- The value has a text that stands for it: strings, truth values, nulls and integers of 64 bits, nested at will. -/
def Plain : Json → Prop
  | float _ | unreadable => False
  | int n => -2 ^ 63 ≤ n ∧ n < 2 ^ 64
  | array items => ItemsPlain items
  | object members => MembersPlain members
  | _ => True

def ItemsPlain : List Json → Prop
  | [] => True
  | v :: rest => v.Plain ∧ ItemsPlain rest

def MembersPlain : List (String × Json) → Prop
  | [] => True
  | (_, v) :: rest => v.Plain ∧ MembersPlain rest

end

theorem skip_cons {c : Char} {cs : List Char} (h : isBlank c = false) : skip (c :: cs) = c :: cs := by
  rw [skip, List.dropWhile_cons, h]
  rfl

theorem ends_cons {c : Char} (cs : List Char) (h : c ∈ [',', ']', '\x7d']) : Ends (c :: cs) := by
  intro d hd
  rw [List.head?_cons, Option.mem_some] at hd
  rwa [← hd]

theorem ends_nil : Ends [] := nofun

/-! ### Values without parts -/

theorem head_intText (n : Int) : ∃ c cs, intText n = c :: cs ∧ (c = '-' ∨ c.isDigit) := by
  rw [intText]
  split
  · exact ⟨'-', _, rfl, .inl rfl⟩
  · obtain ⟨c, cs, hcs⟩ := List.exists_cons_of_ne_nil (Nat.toDigits_ne_nil (n := n.natAbs) (b := 10))
    exact ⟨c, cs, hcs, .inr (Nat.isDigit_of_mem_toDigits (b := 10) (n := n.natAbs) (by omega) (by omega)
      (hcs ▸ List.mem_cons_self))⟩

theorem isBlank_of_isDigit {c : Char} (h : c.isDigit) : isBlank c = false := by
  have hne : c ≠ ' ' ∧ c ≠ '\t' ∧ c ≠ '\n' ∧ c ≠ '\r' := by
    refine ⟨?_, ?_, ?_, ?_⟩ <;> rintro rfl <;> exact absurd h (by decide)
  simp [isBlank, hne]

/-- A number is told by its first character. -/
theorem readValue_of_number {c : Char} (cs : List Char) (fuel : Nat) (h : c = '-' ∨ c.isDigit) :
    readValue (fuel + 1) (c :: cs) = (readNumber (c :: cs)).map fun r => (r.1.value, r.2) := by
  have hblank : isBlank c = false := by
    rcases h with rfl | h
    · rfl
    · exact isBlank_of_isDigit h
  rw [readValue, skip_cons hblank]
  split
  all_goals first
    | (next heq => cases heq; rcases h with h | h <;> exact absurd h (by decide))
    | rfl

theorem readValue_int {n : Int} {rest : List Char} (fuel : Nat) (hn : (int n).Plain) (hrest : Ends rest) :
    readValue (fuel + 1) (intText n ++ rest) = some (int n, rest) := by
  obtain ⟨c, cs, hcs, hc⟩ := head_intText n
  obtain ⟨number, hread, hvalue⟩ := readNumber_intText hn.1 hn.2 hrest
  rw [hcs, List.cons_append] at hread ⊢
  rw [readValue_of_number _ fuel hc, hread, Option.map_some, hvalue]

theorem readValue_quote (s : String) (rest : List Char) (fuel : Nat) :
    readValue (fuel + 1) (quote s ++ rest) = some (string s, rest) := by
  rw [quote, List.cons_append, List.append_assoc, readValue, skip_cons (by decide)]
  simp only [List.cons_append, List.nil_append, readString_quote, Option.map_some, ofSpelled, String.ofList_toList]

theorem readKey_quote (k : String) (rest : List Char) :
    readKey (quote k ++ ':' :: rest) = some ((some k.toList, rest) : Spelled) := by
  have hcolon : skip (':' :: rest) = ':' :: rest := skip_cons (by decide)
  rw [quote, List.cons_append, List.append_assoc, readKey, skip_cons (by decide)]
  simp only [List.cons_append, List.nil_append, readString_quote, hcolon]

/-! ### Nested values -/

/-- The first character of a text is no blank and closes nothing. -/
theorem head_render {v : Json} (h : v.Plain) : ∃ c cs, v.render = c :: cs ∧ isBlank c = false ∧ c ≠ ']' := by
  cases v with
  | null => exact ⟨'n', _, rfl, rfl, by decide⟩
  | bool b =>
    cases b
    · exact ⟨'f', _, rfl, rfl, by decide⟩
    · exact ⟨'t', _, rfl, rfl, by decide⟩
  | int n =>
    obtain ⟨c, cs, hcs, hc⟩ := head_intText n
    refine ⟨c, cs, by rw [render, hcs], ?_⟩
    rcases hc with rfl | hc
    · decide
    · refine ⟨isBlank_of_isDigit hc, ?_⟩
      rintro rfl
      exact absurd hc (by decide)
  | float bits => exact h.elim
  | string s => exact ⟨'"', _, by rw [render, quote], rfl, by decide⟩
  | array items => cases items <;> exact ⟨'[', _, by rw [render], rfl, by decide⟩
  | object members =>
    rcases members with _ | ⟨⟨k, v⟩, members⟩ <;> exact ⟨'\x7b', _, by rw [render], rfl, by decide⟩
  | unreadable => exact h.elim

theorem length_render_pos {v : Json} (h : v.Plain) : 0 < v.render.length := by
  obtain ⟨c, cs, hcs, -⟩ := head_render h
  simp [hcs]

/-- Behind its bracket, an array that is not empty is read as items. -/
theorem readValue_array {v : Json} (hv : v.Plain) (cs : List Char) (fuel : Nat) :
    readValue (fuel + 1) ('[' :: (v.render ++ cs)) =
      (readItems fuel (v.render ++ cs)).map fun r => (array r.1, r.2) := by
  obtain ⟨c, tail, hrender, hblank, hc⟩ := head_render hv
  rw [readValue, skip_cons (by decide)]
  simp only [hrender, List.cons_append, skip_cons hblank]
  split
  · next heq =>
    cases heq
    exact absurd rfl hc
  · rfl

theorem readValue_object (k : String) (cs : List Char) (fuel : Nat) :
    readValue (fuel + 1) ('\x7b' :: (quote k ++ cs)) =
      (readMembers fuel (quote k ++ cs)).map fun r => (ofMembers r.1, r.2) := by
  rw [readValue, skip_cons (by decide)]
  simp only [quote, List.cons_append, skip_cons (show isBlank '"' = false by decide)]
  rfl

theorem ends_renderItems (items : List Json) (rest : List Char) : Ends (renderItems items ++ rest) := by
  cases items with
  | nil => exact ends_cons _ (by simp)
  | cons v items =>
    rw [renderItems]
    exact ends_cons _ (by simp)

theorem ends_renderMembers (members : List (String × Json)) (rest : List Char) :
    Ends (renderMembers members ++ rest) := by
  rcases members with _ | ⟨⟨k, v⟩, members⟩
  · exact ends_cons _ (by simp)
  · rw [renderMembers]
    exact ends_cons _ (by simp)

mutual

theorem readValue_render : ∀ (v : Json) (rest : List Char) (fuel : Nat), v.Plain → Ends rest →
    2 * v.render.length ≤ fuel → readValue fuel (v.render ++ rest) = some (v, rest)
  | v, _, 0, hv, _, hf => absurd (length_render_pos hv) (by omega)
  | null, rest, fuel + 1, _, _, _ => by
    rw [readValue]
    rfl
  | bool true, rest, fuel + 1, _, _, _ => by
    rw [readValue]
    rfl
  | bool false, rest, fuel + 1, _, _, _ => by
    rw [readValue]
    rfl
  | int n, rest, fuel + 1, hv, hrest, _ => by
    rw [render]
    exact readValue_int fuel hv hrest
  | string s, rest, fuel + 1, _, _, _ => by
    rw [render]
    exact readValue_quote s rest fuel
  | array [], rest, fuel + 1, _, _, _ => by
    rw [readValue]
    rfl
  | array (v :: items), rest, fuel + 1, hv, _, hf => by
    rw [Plain] at hv
    rw [render, List.length_cons, List.length_append] at hf
    have ih := readItems_render v items rest fuel hv.1 hv.2 (by omega)
    rw [render, List.cons_append, List.append_assoc, readValue_array hv.1, ih]
    rfl
  | object [], rest, fuel + 1, _, _, _ => by
    rw [readValue]
    rfl
  | object ((k, v) :: members), rest, fuel + 1, hv, _, hf => by
    rw [Plain] at hv
    simp only [render, List.length_cons, List.length_append] at hf
    have ih := readMembers_render k v members rest fuel hv.1 hv.2 (by omega)
    simp only [render, List.cons_append, List.append_assoc]
    rw [readValue_object, ih]
    rfl

theorem readItems_render : ∀ (v : Json) (items : List Json) (rest : List Char) (fuel : Nat), v.Plain →
    ItemsPlain items → 2 * (v.render.length + (renderItems items).length) ≤ fuel + 1 →
    readItems fuel (v.render ++ (renderItems items ++ rest)) = some (v :: items, rest)
  | v, items, rest, 0, hv, _, hf => absurd (length_render_pos hv) (by omega)
  | v, items, rest, fuel + 1, hv, hitems, hf => by
    have hread := readValue_render v (renderItems items ++ rest) fuel hv (ends_renderItems items rest)
      (by cases items <;> simp [renderItems] at hf ⊢ <;> omega)
    rw [readItems, hread]
    cases items with
    | nil => rfl
    | cons w items =>
      rw [ItemsPlain] at hitems
      rw [renderItems, List.length_cons, List.length_append] at hf
      have ih := readItems_render w items rest fuel hitems.1 hitems.2 (by omega)
      simp only [renderItems, List.cons_append, List.append_assoc, skip_cons (show isBlank ',' = false by decide),
        ih, Option.map_some]

theorem readMembers_render : ∀ (k : String) (v : Json) (members : List (String × Json)) (rest : List Char)
    (fuel : Nat), v.Plain → MembersPlain members → 2 * (v.render.length + (renderMembers members).length) ≤ fuel + 1 →
    readMembers fuel (quote k ++ (':' :: (v.render ++ (renderMembers members ++ rest)))) =
      some (some ((k, v) :: members), rest)
  | k, v, members, rest, 0, hv, _, hf => absurd (length_render_pos hv) (by omega)
  | k, v, members, rest, fuel + 1, hv, hmembers, hf => by
    have hread := readValue_render v (renderMembers members ++ rest) fuel hv (ends_renderMembers members rest)
      (by rcases members with _ | ⟨⟨k, w⟩, members⟩ <;> simp [renderMembers] at hf ⊢ <;> omega)
    rw [readMembers, readKey_quote]
    simp only [hread]
    rcases members with _ | ⟨⟨l, w⟩, members⟩
    · simp [renderMembers, addMember, skip_cons (show isBlank '\x7d' = false by decide)]
    · rw [MembersPlain] at hmembers
      simp only [renderMembers, List.length_cons, List.length_append] at hf
      have ih := readMembers_render l w members rest fuel hmembers.1 hmembers.2 (by omega)
      simp only [renderMembers, List.cons_append, List.append_assoc, skip_cons (show isBlank ',' = false by decide),
        ih, Option.map_some, addMember, String.ofList_toList]

end

/-- A value is read back from its compact text. -/
theorem parse?_compact {v : Json} (h : v.Plain) : parse? v.compact = some v := by
  have hread := readValue_render v [] (2 * v.compact.length + 2) h ends_nil (by simp [compact])
  rw [List.append_nil] at hread
  rw [parse?, compact, String.toList_ofList]
  rw [compact] at hread
  rw [hread]
  rfl

end Keyring.Json
