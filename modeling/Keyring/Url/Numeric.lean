import Keyring.Text.Numeral

/-! Network addresses in the host of a URL. A host whose last part is a number must be an address of version 4, of up
to four numbers in base 8, 10 or 16; a host in brackets must be one of version 6. -/
namespace Keyring.Url

open Text (numeral?)

/-- One part of an address of version 4. The base is told by a `0x` or a `0` in front; a bare `0x` is zero. -/
def part? : List Char → Option Nat
  | [] => none
  | '0' :: 'x' :: rest | '0' :: 'X' :: rest => numeral? 16 rest
  | '0' :: c :: rest => numeral? 8 (c :: rest)
  | cs => numeral? 10 cs

/-- The parts between dots. -/
def parts (host : List Char) : List (List Char) :=
  (String.ofList host).splitOn "." |>.map String.toList

/-- The parts without an empty one at the end, unless it is the only one. -/
def properParts (host : List Char) : List (List Char) :=
  let ps := parts host
  if ps.getLast? = some [] ∧ 1 < ps.length then ps.dropLast else ps

def endsInNumber (host : List Char) : Bool :=
  match (properParts host).getLast? with
  | none => false
  | some p => (p ≠ [] && p.all Char.isDigit) || (part? p).isSome

/-- All parts but the last are bytes, and the last one fills the rest of 32 bits. -/
def isIpv4 (host : List Char) : Bool :=
  let ps := properParts host
  match ps.mapM part? with
  | none => false
  | some ns =>
    match ns.getLast? with
    | none => false
    | some n => ns.length ≤ 4 && ns.dropLast.all (· ≤ 255) && n < 256 ^ (5 - ns.length)

/-- A byte in decimal without a leading zero. -/
def isByte (cs : List Char) : Bool :=
  match numeral? 10 cs with
  | none => false
  | some n => cs ≠ [] && n ≤ 255 && (cs.length == 1 || cs.head? != some '0')

/-- Four bytes between dots. -/
def isQuad (cs : List Char) : Bool :=
  let ps := parts cs
  ps.length == 4 && ps.all isByte

/-- One piece of an address of version 6: one to four hexadecimal digits. -/
def isPiece (cs : List Char) : Bool := cs ≠ [] && cs.length ≤ 4 && (numeral? 16 cs).isSome

/-- How many pieces a list of texts between colons makes; four bytes at the end count as two. -/
def pieceCount? : List (List Char) → Option Nat
  | [] => some 0
  | [p] => if isPiece p then some 1 else if isQuad p then some 2 else none
  | p :: rest => if isPiece p then (pieceCount? rest).map (· + 1) else none

/-- The pieces between single colons; no text has no pieces. -/
def pieces (cs : List Char) : List (List Char) :=
  if cs = [] then [] else (String.ofList cs).splitOn ":" |>.map String.toList

/-- Eight pieces, or fewer around one `::`. A run of bytes stands at the very end only. -/
def isIpv6 (cs : List Char) : Bool :=
  match (String.ofList cs).splitOn "::" with
  | [whole] =>
    match pieceCount? (pieces whole.toList) with
    | some n => n == 8
    | none => false
  | [left, right] =>
    let front := pieces left.toList
    match front.all isPiece, pieceCount? (pieces right.toList) with
    | true, some n => front.length + n ≤ 7
    | _, _ => false
  | _ => false

end Keyring.Url
