import Keyring.Json.Bytes
import Keyring.Proofs.Json.Literal

/-! Reading JSON from bytes is reading the text they spell, when they spell one. In other bytes a literal with a byte
of no character has no value, whatever else it holds. -/
namespace Keyring.Json

/-! ### Characters -/

theorem char?_encode_append (c : Char) (bs : Bytes) : char? (String.utf8EncodeChar c ++ bs) = some c := by
  have hlen : (String.utf8EncodeChar c).length ≤ 4 := by
    rw [String.length_utf8EncodeChar]
    exact c.utf8Size_le_four
  rw [char?, List.take_append, List.take_of_length_le hlen, List.toByteArray_append,
    ByteArray.utf8DecodeChar?_utf8EncodeChar_append]

theorem chars_append {pending : Nat} {bs : Bytes} (h : bs.length = pending) (rest : Bytes) :
    chars pending (bs ++ rest) = chars 0 rest := by
  induction bs generalizing pending with
  | nil =>
    subst h
    rfl
  | cons b bs ih =>
    subst h
    exact ih rfl

theorem chars_encode_append (c : Char) (bs : Bytes) :
    chars 0 (String.utf8EncodeChar c ++ bs) = some c :: chars 0 bs := by
  have hchar := char?_encode_append c bs
  have hlen := String.length_utf8EncodeChar c
  obtain ⟨b, tail, hb⟩ := List.exists_cons_of_ne_nil (String.utf8EncodeChar_ne_nil (c := c))
  rw [hb, List.cons_append] at hchar ⊢
  rw [hb, List.length_cons] at hlen
  rw [chars, hchar]
  simp only [chars_append (show tail.length = c.utf8Size - 1 by omega)]

theorem chars_encode (cs : List Char) : chars 0 (cs.flatMap String.utf8EncodeChar) = cs.map some := by
  induction cs with
  | nil => rfl
  | cons c cs ih => rw [List.flatMap_cons, chars_encode_append, ih, List.map_cons]

/-! ### Texts -/

mutual

theorem outside_map_some : ∀ cs : List Char, outside (cs.map some) = cs
  | [] => rfl
  | c :: cs => by
    by_cases hquote : c = '"'
    · rw [hquote, List.map_cons, outside_quote, inside_map_some cs]
    · rw [List.map_cons, outside_cons hquote, outside_map_some cs]

theorem inside_map_some : ∀ cs : List Char, inside (cs.map some) = cs
  | [] => rfl
  | [c] => by
    by_cases hquote : c = '"'
    · rw [hquote]
      rfl
    by_cases hslash : c = '\\'
    · rw [hslash]
      rfl
    rw [List.map_cons, inside_cons hquote hslash]
    rfl
  | c :: d :: cs => by
    by_cases hquote : c = '"'
    · rw [hquote, List.map_cons, inside_quote, outside_map_some (d :: cs)]
    by_cases hslash : c = '\\'
    · rw [hslash, List.map_cons, List.map_cons, inside_slash, inside_map_some cs, Option.getD_some]
    rw [List.map_cons, inside_cons hquote hslash, inside_map_some (d :: cs)]

end

/-- Of the bytes of a text, the value is that of the text. -/
theorem parseBytes?_toUTF8 (s : String) : parseBytes? s.toUTF8 = parse? s := by
  have hbytes : s.toUTF8.data.toList = s.toList.flatMap String.utf8EncodeChar := by
    rw [String.toUTF8_eq_toByteArray, ← String.utf8Encode_toList, List.utf8Encode, List.toList_data_toByteArray]
  rw [parseBytes?, hbytes, chars_encode, outside_map_some, String.ofList_toList]

/-! ### Bytes of no character -/

theorem readString_lost (cs : List Char) : readString (lost ++ cs) = (readString (stray :: cs)).map Spelled.lose := rfl

/-- What stands for itself in a literal, or for nothing. -/
def Verbatim (c : Option Char) : Prop := ∀ d ∈ c, d ≠ '"' ∧ d ≠ '\\' ∧ ¬ d.toNat < 32

/-- A literal of such characters is well formed. Its value is those characters, if every byte belongs to one. -/
theorem readString_inside {cs : List (Option Char)} (h : ∀ c ∈ cs, Verbatim c) (rest : List (Option Char)) :
    readString (inside (cs ++ some '"' :: rest)) = some (cs.mapM id, outside rest) := by
  induction cs with
  | nil =>
    rw [List.nil_append, inside_quote]
    rfl
  | cons c cs ih =>
    rw [List.forall_mem_cons] at h
    have hread := ih h.2
    cases c with
    | none =>
      rw [List.cons_append, inside_none, readString_lost, readString_plain (by decide) (by decide) (by decide), hread]
      rfl
    | some d =>
      obtain ⟨hquote, hslash, hcontrol⟩ := h.1 d rfl
      rw [List.cons_append, inside_cons hquote hslash, readString_plain hquote hslash hcontrol, hread, List.mapM_cons]
      cases cs.mapM id <;> rfl

example : readString (inside (chars 0 [0x54, 0xff, 0x22])) = some (none, []) := by decide

end Keyring.Json
