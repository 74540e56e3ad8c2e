/-! The Gregorian calendar, extended to all years, as a count of days from 1 January 1970. -/
namespace Keyring.Calendar

def isLeap (y : Int) : Bool := y % 4 == 0 && (y % 100 != 0 || y % 400 == 0)

/-- The day on which a year starts. -/
def yearStart (y : Int) : Int := 365 * (y - 1970) + ((y - 1) / 4 - (y - 1) / 100 + (y - 1) / 400) - 477

def monthLengths (y : Int) : List Nat :=
  [31, if isLeap y then 29 else 28, 31, 30, 31, 30, 31, 31, 30, 31, 30, 31]

/-- How many days the first months have together. -/
def daysBefore : (lengths : List Nat) → (months : Nat) → Nat
  | length :: rest, months + 1 => length + daysBefore rest months
  | _, _ => 0

/-- A year, a month from 1 and a day of the month from 1. -/
structure Date where
  year : Int
  month : Nat
  day : Nat
deriving DecidableEq, Repr

/-- The day of a date that the calendar has. -/
def Date.toDay? (d : Date) : Option Int :=
  match (monthLengths d.year)[d.month - 1]? with
  | none => none
  | some length =>
    if 1 ≤ d.month ∧ 1 ≤ d.day ∧ d.day ≤ length then
      some (yearStart d.year + daysBefore (monthLengths d.year) (d.month - 1) + (d.day - 1 : Nat))
    else none

/-- The estimate by the mean length of a year is off by one at most. -/
def yearOf (day : Int) : Int :=
  let y := 1970 + day * 400 / 146097
  if day < yearStart y then y - 1 else if yearStart (y + 1) ≤ day then y + 1 else y

/-- The month, from `month` on, and the day in it that lie `n` days on. -/
def locate (month : Nat) : List Nat → Nat → Nat × Nat
  | [], n => (month, n + 1)
  | length :: rest, n => if n < length then (month, n + 1) else locate (month + 1) rest (n - length)

def Date.ofDay (day : Int) : Date :=
  let y := yearOf day
  let (m, d) := locate 1 (monthLengths y) (day - yearStart y).toNat
  ⟨y, m, d⟩

end Keyring.Calendar
