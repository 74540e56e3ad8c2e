import Keyring.Bytes
import Keyring.Json.Reader

/-! JSON read from bytes, which need not be UTF-8 throughout. Bytes that make no character are no JSON outside of
string literals. A literal with such a byte is well formed and has no value, so it does no harm where nobody asks for
what it says. -/
namespace Keyring.Json

/-- The character in front, which takes four bytes at most. -/
def char? (bs : Bytes) : Option Char := (bs.take 4).toByteArray.utf8DecodeChar? 0

/-- The characters of the bytes, and nothing for each byte that belongs to none. `pending` counts the bytes in front
that the character before has taken. -/
def chars (pending : Nat) : Bytes → List (Option Char)
  | [] => []
  | b :: bs =>
    match pending with
    | pending + 1 => chars pending bs
    | 0 =>
      match char? (b :: bs) with
      | some c => some c :: chars (c.utf8Size - 1) bs
      | none => none :: chars 0 bs

/-- What a byte of no character becomes outside of literals and behind a backslash, where it is not allowed. -/
def stray : Char := '\ufffd'

/-- What a byte of no character becomes in a literal: a surrogate, and a character that is no partner to it. -/
def lost : List Char := ['\\', 'u', 'd', '8', '0', '0', stray]

mutual

/-- The text of the characters outside of literals. -/
def outside : List (Option Char) → List Char
  | [] => []
  | some '"' :: cs => '"' :: inside cs
  | c :: cs => c.getD stray :: outside cs

/-- The text of the characters from behind an opening quote. What follows a backslash closes no literal. -/
def inside : List (Option Char) → List Char
  | [] => []
  | some '"' :: cs => '"' :: outside cs
  | some '\\' :: c :: cs => '\\' :: c.getD stray :: inside cs
  | some c :: cs => c :: inside cs
  | none :: cs => lost ++ inside cs

end

theorem outside_quote (cs : List (Option Char)) : outside (some '"' :: cs) = '"' :: inside cs := rfl

theorem inside_quote (cs : List (Option Char)) : inside (some '"' :: cs) = '"' :: outside cs := rfl

theorem inside_slash (c : Option Char) (cs : List (Option Char)) :
    inside (some '\\' :: c :: cs) = '\\' :: c.getD stray :: inside cs := rfl

theorem inside_none (cs : List (Option Char)) : inside (none :: cs) = lost ++ inside cs := rfl

theorem outside_cons {c : Char} (hquote : c ≠ '"') (cs : List (Option Char)) :
    outside (some c :: cs) = c :: outside cs := by
  rw [outside, Option.getD_some]
  simpa using hquote

theorem inside_cons {c : Char} (hquote : c ≠ '"') (hslash : c ≠ '\\') (cs : List (Option Char)) :
    inside (some c :: cs) = c :: inside cs := by
  rw [inside]
  · exact hquote
  · exact fun _ _ _ hc => hslash hc

/-- The value that the bytes spell. -/
def parseBytes? (bs : ByteArray) : Option Json := parse? (String.ofList (outside (chars 0 bs.data.toList)))

end Keyring.Json
