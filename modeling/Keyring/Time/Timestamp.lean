import Keyring.Time.Calendar

/-! Instants in universal time to the nanosecond, within the years -262143 to 262142. A leap second is the second
second of its number: its nanoseconds count on from those of the one before. -/
namespace Keyring

structure Timestamp where
  /-- Seconds since the start of 1970, leap seconds not counted. -/
  second : Int
  nano : Nat
  low : Calendar.yearStart (-262143) * 86400 ≤ second := by decide
  high : second < Calendar.yearStart 262143 * 86400 := by decide
  nano_lt : nano < 2000000000 := by decide
  leap : 1000000000 ≤ nano → second % 60 = 59 := by decide
deriving DecidableEq

namespace Timestamp

def of? (second : Int) (nano : Nat) : Option Timestamp :=
  if h : (Calendar.yearStart (-262143) * 86400 ≤ second ∧ second < Calendar.yearStart 262143 * 86400)
      ∧ nano < 2000000000 ∧ (1000000000 ≤ nano → second % 60 = 59) then
    some ⟨second, nano, h.1.1, h.1.2, h.2.1, h.2.2⟩
  else none

def epoch : Timestamp := { second := 0, nano := 0 }

instance : Inhabited Timestamp := ⟨epoch⟩

/-- The order of instants; a leap second follows the second before it. -/
def le (a b : Timestamp) : Bool := a.second < b.second || (a.second == b.second && a.nano ≤ b.nano)

end Timestamp
end Keyring
