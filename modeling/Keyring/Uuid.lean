import Keyring.Hex
import Keyring.Text.Numeral

/-! Universally unique identifiers: 128 bits, written as 32 lower-case digits in groups of 8, 4, 4, 4 and 12.
Four spellings are read: grouped, ungrouped, grouped in braces and grouped after `urn:uuid:`. -/
namespace Keyring

structure Uuid where
  bits : Nat
  bits_lt : bits < 2 ^ 128
deriving DecidableEq

namespace Uuid

def nil : Uuid := ⟨0, by decide⟩

/-- The identifier of the low 128 bits of a number. -/
def ofNat (n : Nat) : Uuid := ⟨n % 2 ^ 128, Nat.mod_lt _ (by decide)⟩

instance : Inhabited Uuid := ⟨nil⟩

/-- Marks 16 random bytes as a random identifier: version 4, variant 1. -/
def ofRandom (bs : Bytes) : Uuid :=
  let n := Bytes.toNat bs % 2 ^ 128
  let high := n / 2 ^ 80
  let middle := n / 2 ^ 64 % 2 ^ 12
  let low := n % 2 ^ 62
  ofNat (high * 2 ^ 80 + 4 * 2 ^ 76 + middle * 2 ^ 64 + 2 ^ 63 + low)

def digits (id : Uuid) : List Char := (Bytes.ofNat 16 id.bits).flatMap Hex.pair

def group (ds : List Char) : List Char :=
  ds.take 8 ++ '-' :: ((ds.drop 8).take 4 ++ '-' :: ((ds.drop 12).take 4 ++
    '-' :: ((ds.drop 16).take 4 ++ '-' :: ds.drop 20)))

def toString (id : Uuid) : String := String.ofList (group id.digits)

instance : ToString Uuid := ⟨toString⟩

def ofDigits? (ds : List Char) : Option Uuid :=
  match Text.numeral? 16 ds with
  | none => none
  | some n => if ds.length = 32 then some (ofNat n) else none

/-- Drops the four hyphens of the grouped spelling. -/
def ungroup? (cs : List Char) : Option (List Char) :=
  let ds := cs.filter (· != '-')
  if cs.length = 36 ∧ group ds = cs then some ds else none

def parse? (s : String) : Option Uuid :=
  let cs := s.toList
  if cs.length = 32 then ofDigits? cs
  else if cs.length = 36 then (ungroup? cs).bind ofDigits?
  else if cs.length = 38 ∧ cs.head? = some '{' ∧ cs.getLast? = some '}' then
    (ungroup? ((cs.drop 1).take 36)).bind ofDigits?
  else if cs.length = 45 ∧ (cs.take 9).map Char.toLower = "urn:uuid:".toList then
    (ungroup? (cs.drop 9)).bind ofDigits?
  else none

end Uuid
end Keyring
