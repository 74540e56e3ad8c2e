import Keyring.Decimal.Binary64
import Keyring.Json
import Keyring.Text.Numeral

/-! The literals of JSON text: blanks, strings and numbers. Each reader takes a literal from the front of a text
and returns what follows it. -/
namespace Keyring.Json

def isBlank (c : Char) : Bool := c == ' ' || c == '\t' || c == '\n' || c == '\r'

def skip (cs : List Char) : List Char := cs.dropWhile isBlank

/-! ### Strings -/

/-- The UTF-16 unit that four digits spell. -/
def unit? (a b c d : Char) : Option Nat := Text.numeral? 16 [a, b, c, d]

def isHigh (u : Nat) : Bool := 0xd800 ≤ u && u < 0xdc00

def isLow (u : Nat) : Bool := 0xdc00 ≤ u && u < 0xe000

def joinUnits (high low : Nat) : Char := Char.ofNat (0x10000 + 1024 * (high - 0xd800) + (low - 0xdc00))

/-- The character after a backslash that stands for one character. -/
def escaped? : Char → Option Char
  | '"' => some '"'
  | '\\' => some '\\'
  | '/' => some '/'
  | 'b' => some '\x08'
  | 'f' => some '\x0c'
  | 'n' => some '\n'
  | 'r' => some '\r'
  | 't' => some '\t'
  | _ => none

/-- The characters of a string literal, or none for a literal without value, and what follows the literal. -/
abbrev Spelled := Option (List Char) × List Char

def Spelled.push (c : Char) (r : Spelled) : Spelled := (r.1.map (c :: ·), r.2)

def Spelled.lose (r : Spelled) : Spelled := (none, r.2)

/-- Reads from behind the opening quote. A surrogate without its partner leaves the literal without value. -/
def readString : List Char → Option Spelled
  | [] => none
  | '"' :: rest => some (some [], rest)
  | '\\' :: 'u' :: a :: b :: c :: d :: '\\' :: 'u' :: e :: f :: g :: h :: rest =>
    match unit? a b c d, unit? e f g h with
    | some u, some v =>
      if isHigh u ∧ isLow v then (readString rest).map (Spelled.push (joinUnits u v))
      else if isHigh u ∨ isLow u then
        (readString ('\\' :: 'u' :: e :: f :: g :: h :: rest)).map Spelled.lose
      else (readString ('\\' :: 'u' :: e :: f :: g :: h :: rest)).map (Spelled.push (Char.ofNat u))
    | _, _ => none
  | '\\' :: 'u' :: a :: b :: c :: d :: rest =>
    match unit? a b c d with
    | none => none
    | some u =>
      if isHigh u ∨ isLow u then (readString rest).map Spelled.lose
      else (readString rest).map (Spelled.push (Char.ofNat u))
  | '\\' :: c :: rest =>
    match escaped? c with
    | none => none
    | some e => (readString rest).map (Spelled.push e)
  | c :: rest => if c.toNat < 32 ∨ c = '\\' then none else (readString rest).map (Spelled.push c)

theorem readString_plain {c : Char} {cs : List Char} (hquote : c ≠ '"') (hslash : c ≠ '\\') (hc : ¬ c.toNat < 32) :
    readString (c :: cs) = (readString cs).map (Spelled.push c) := by
  rw [readString]
  · rw [if_neg (by simp [hc, hslash])]
  · exact hquote
  · exact fun _ _ _ _ _ _ _ _ _ h _ => hslash h
  · exact fun _ _ _ _ _ h _ => hslash h
  · exact fun _ _ h _ => hslash h

/-! ### Numbers -/

/-- A number as written: a sign, whole digits, a fraction and a power of ten. -/
structure Number where
  negative : Bool
  whole : List Nat
  fraction : Option (List Nat)
  /-- Whether the power is negative, and its digits. -/
  exponent : Option (Bool × List Nat)

def digitsValue (ds : List Nat) : Nat := ds.foldl (fun n d => 10 * n + d) 0

/-- The digits in front, and what follows them. -/
def readDigits : List Char → List Nat × List Char
  | [] => ([], [])
  | c :: rest =>
    if c.isDigit then
      let (ds, rest') := readDigits rest
      ((c.toNat - 48) :: ds, rest')
    else ([], c :: rest)

def readFraction : List Char → Option (Option (List Nat) × List Char)
  | '.' :: rest =>
    match readDigits rest with
    | ([], _) => none
    | (ds, rest) => some (some ds, rest)
  | cs => some (none, cs)

def readPower (negative : Bool) (cs : List Char) : Option (Option (Bool × List Nat) × List Char) :=
  match readDigits cs with
  | ([], _) => none
  | (ds, rest) => some (some (negative, ds), rest)

def readExponent : List Char → Option (Option (Bool × List Nat) × List Char)
  | 'e' :: '+' :: rest | 'E' :: '+' :: rest => readPower false rest
  | 'e' :: '-' :: rest | 'E' :: '-' :: rest => readPower true rest
  | 'e' :: rest | 'E' :: rest => readPower false rest
  | cs => some (none, cs)

/-- Zero, or digits that do not start with one. -/
def readWhole : List Char → Option (List Nat × List Char)
  | '0' :: rest =>
    match readDigits rest with
    | ([], rest) => some ([0], rest)
    | _ => none
  | cs =>
    match readDigits cs with
    | ([], _) => none
    | r => some r

def readUnsigned (negative : Bool) (cs : List Char) : Option (Number × List Char) :=
  match readWhole cs with
  | none => none
  | some (whole, cs) =>
    match readFraction cs with
    | none => none
    | some (fraction, cs) =>
      match readExponent cs with
      | none => none
      | some (exponent, cs) => some (⟨negative, whole, fraction, exponent⟩, cs)

def readNumber : List Char → Option (Number × List Char)
  | '-' :: rest => readUnsigned true rest
  | cs => readUnsigned false cs

/-- Appends digits to a significand while it fits in 64 bits, and counts those appended. -/
def appendDigits (significand : Nat) : List Nat → Nat × Nat
  | [] => (significand, 0)
  | d :: ds =>
    if 10 * significand + d < 2 ^ 64 then
      let (s, k) := appendDigits (10 * significand + d) ds
      (s, k + 1)
    else (significand, 0)

namespace Number

def power (n : Number) : Option (Bool × Nat) := n.exponent.map fun (negative, ds) => (negative, digitsValue ds)

/-- The significand has 64 bits: digits that no longer fit only scale the number, and of a fraction they are lost. -/
def scaled (n : Number) : Nat × Int :=
  let (s, k) := appendDigits 0 n.whole
  let (s, j) := appendDigits s (n.fraction.getD [])
  (s, (n.whole.length - k : Nat) - (j : Int))

def signed (negative : Bool) (f : Float) : Json := float (if negative then (-f) else f).toBits

/-- The number as a float; a number out of range has no value. -/
def toFloat (n : Number) : Json :=
  let (s, e) := n.scaled
  let (down, p) := (n.power).getD (false, 0)
  if 2 ^ 31 ≤ p then
    if s ≠ 0 ∧ down = false then unreadable else signed n.negative 0
  else
    match Decimal.Binary64.ofScientific? s (if down then e - p else e + p) with
    | some f => signed n.negative f
    | none => unreadable

/-- A whole number that fits in 64 bits, signed or not, is exact; minus zero is a float. -/
def value (n : Number) : Json :=
  let w := digitsValue n.whole
  if n.fraction.isSome ∨ n.exponent.isSome then n.toFloat
  else if n.negative then (if 0 < w ∧ w ≤ 2 ^ 63 then int (-w) else n.toFloat)
  else if w < 2 ^ 64 then int w else n.toFloat

end Number
end Keyring.Json
