import Keyring.Error

/-! Amounts of an asset in its smallest unit, given as unsigned decimal text. Leading zeros are fine; signs,
spaces, separators and digits outside ASCII are not. -/
namespace Keyring.Amount

def digitValue (c : Char) : Nat := c.toNat - 48

/-- The number that a non-empty text of ASCII digits spells. -/
def decimal? (s : String) : Option Nat :=
  let cs := s.toList
  if cs ≠ [] ∧ cs.all Char.isDigit then some (cs.foldl (fun n c => 10 * n + digitValue c) 0) else none

/-- A decimal below `bound`. -/
def below? (bound : Nat) (s : String) : Option Nat := (decimal? s).filter (· < bound)

/-- An amount fits in 256 bits. -/
def parse (s : String) : Except Error Nat :=
  match below? (2 ^ 256) s with
  | some n => .ok n
  | none => .error .invalidAmount

/-- A fee per unit of gas fits in 128 bits and is not zero. -/
def parseFee (s : String) : Except Error Nat :=
  match (below? (2 ^ 128) s).filter (· ≠ 0) with
  | some n => .ok n
  | none => .error .invalidGasSettings

end Keyring.Amount
