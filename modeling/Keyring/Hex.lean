import Keyring.Bytes

/-! Hexadecimal text. Bytes are written with lower-case digits; reading takes either case, tolerates one
`0x` and then one more marker of either case, and says which fault it met and where. -/
namespace Keyring.Hex

inductive Fault where
  | oddLength
  | badDigit (byte : UInt8) (index : Nat)
deriving DecidableEq, Repr

def digit (n : Nat) : Char := Char.ofNat (if n < 10 then 48 + n else 87 + n)

def value? (b : UInt8) : Option Nat :=
  let n := b.toNat
  if 48 ≤ n ∧ n ≤ 57 then some (n - 48)
  else if 97 ≤ n ∧ n ≤ 102 then some (n - 87)
  else if 65 ≤ n ∧ n ≤ 70 then some (n - 55)
  else none

def pair (b : UInt8) : List Char := [digit (b.toNat / 16), digit (b.toNat % 16)]

def encode (bs : Bytes) : String := String.ofList (bs.flatMap pair)

/-- Reads digit pairs, the first of which stands at `index`. -/
def decodeFrom (index : Nat) : Bytes → Except Fault Bytes
  | [] => .ok []
  | [_] => .error .oddLength
  | a :: b :: rest =>
    match value? a with
    | none => .error (.badDigit a index)
    | some x =>
      match value? b with
      | none => .error (.badDigit b (index + 1))
      | some y =>
        match decodeFrom (index + 2) rest with
        | .error e => .error e
        | .ok bs => .ok (UInt8.ofNat (16 * x + y) :: bs)

/-- An odd number of digits is reported before any bad digit. -/
def decode (bs : Bytes) : Except Fault Bytes :=
  if bs.length % 2 = 1 then .error .oddLength else decodeFrom 0 bs

def stripMarker : List Char → List Char
  | '0' :: 'x' :: rest => rest
  | cs => cs

def stripAnyMarker : List Char → List Char
  | '0' :: 'x' :: rest => rest
  | '0' :: 'X' :: rest => rest
  | cs => cs

/-- The digits of a text once its tolerated markers are gone. -/
def body (s : String) : String := String.ofList (stripAnyMarker (stripMarker s.toList))

def parse (s : String) : Except Fault Bytes := decode (Bytes.utf8 (body s))

/-! ### The fault in words -/

/-- A byte as a quoted Latin-1 character; what cannot be seen is escaped. -/
def quoteByte (b : UInt8) : String :=
  let n := b.toNat
  let inner :=
    if n = 0 then "\\0"
    else if n = 9 then "\\t"
    else if n = 10 then "\\n"
    else if n = 13 then "\\r"
    else if n = 39 then "\\'"
    else if n = 92 then "\\\\"
    else if n < 32 ∨ (127 ≤ n ∧ n ≤ 160) ∨ n = 173 then
      "\\u\x7b" ++ String.ofList (Nat.toDigits 16 n) ++ "\x7d"
    else String.singleton (Char.ofNat n)
  "'" ++ inner ++ "'"

def Fault.message : Fault → String
  | .oddLength => "odd number of digits"
  | .badDigit b i => "invalid character " ++ quoteByte b ++ " at position " ++ toString i

end Keyring.Hex
