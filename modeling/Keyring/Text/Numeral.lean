/-! Numerals: the values of digits up to `f` in either case, and the numbers that digits of a base spell. -/
namespace Keyring.Text

def digitValue? (c : Char) : Option Nat :=
  if '0' ≤ c ∧ c ≤ '9' then some (c.toNat - 48)
  else if 'a' ≤ c ∧ c ≤ 'f' then some (c.toNat - 87)
  else if 'A' ≤ c ∧ c ≤ 'F' then some (c.toNat - 55)
  else none

/-- No digits spell zero. -/
def numeral? (base : Nat) (cs : List Char) : Option Nat :=
  (cs.mapM fun c => (digitValue? c).filter (· < base)).map fun ds => ds.foldl (fun n d => base * n + d) 0

end Keyring.Text
