import Keyring.Text.Blank
import Keyring.Time.Timestamp

/-! The text of instants. An instant is written in universal time with the fewest of 0, 3, 6 or 9 digits of
fraction that keep it. Reading is more liberal: it takes any offset, short and blank-padded numbers, further
digits of a fraction, which are lost, and the letters `UTC`. -/
namespace Keyring.Timestamp

open Calendar

/-! ### Writing -/

/-- A number in at least `width` digits. -/
def padded (width n : Nat) : List Char :=
  let ds := Nat.toDigits 10 n
  List.replicate (width - ds.length) '0' ++ ds

/-- A year outside 0 to 9999 has a sign. -/
def yearText (y : Int) : List Char :=
  if 0 ≤ y ∧ y ≤ 9999 then padded 4 y.toNat
  else (if y < 0 then '-' else '+') :: padded 4 y.natAbs

def fractionText (nano : Nat) : List Char :=
  if nano = 0 then []
  else if nano % 1000000 = 0 then '.' :: padded 3 (nano / 1000000)
  else if nano % 1000 = 0 then '.' :: padded 6 (nano / 1000)
  else '.' :: padded 9 nano

def render (t : Timestamp) : List Char :=
  let date := Date.ofDay (t.second / 86400)
  let time := (t.second % 86400).toNat
  let leap := if t.nano < 1000000000 then 0 else 1
  yearText date.year ++ '-' :: padded 2 date.month ++ '-' :: padded 2 date.day
    ++ 'T' :: padded 2 (time / 3600) ++ ':' :: padded 2 (time / 60 % 60) ++ ':' :: padded 2 (time % 60 + leap)
    ++ fractionText (t.nano % 1000000000) ++ ['Z']

def toString (t : Timestamp) : String := String.ofList t.render

/-! ### Reading -/

def number (ds : List Char) : Nat := ds.foldl (fun n c => 10 * n + (c.toNat - 48)) 0

/-- A number of one to `width` digits. -/
def readNumber? (width : Nat) (cs : List Char) : Option (Nat × List Char) :=
  let ds := (cs.take width).takeWhile Char.isDigit
  if ds = [] then none else some (number ds, cs.drop ds.length)

/-- A number of one or two digits behind blanks. -/
def readField? (cs : List Char) : Option (Nat × List Char) := readNumber? 2 (Text.trimStart cs)

/-- At most four digits, or any number of them behind a sign. -/
def readYear? (cs : List Char) : Option (Int × List Char) :=
  match Text.trimStart cs with
  | '-' :: rest => (readNumber? rest.length rest).map fun r => (-(r.1 : Int), r.2)
  | '+' :: rest => (readNumber? rest.length rest).map fun r => (r.1, r.2)
  | cs => (readNumber? 4 cs).map fun r => (r.1, r.2)

/-- A separator behind blanks. -/
def readMark? (mark : Char) (cs : List Char) : Option (List Char) :=
  match Text.trimStart cs with
  | c :: rest => if c = mark then some rest else none
  | [] => none

def readDate? (cs : List Char) : Option (Date × List Char) := do
  let (year, cs) ← readYear? cs
  let cs ← readMark? '-' cs
  let (month, cs) ← readField? cs
  let cs ← readMark? '-' cs
  let (day, cs) ← readField? cs
  some (⟨year, month, day⟩, cs)

/-- The nanoseconds of a fraction; digits after the ninth are passed over. -/
def readFraction? : List Char → Option (Nat × List Char)
  | '.' :: cs =>
    let ds := (cs.take 9).takeWhile Char.isDigit
    if ds = [] then none
    else some (number ds * 10 ^ (9 - ds.length), cs.dropWhile Char.isDigit)
  | cs => some (0, cs)

/-- Seconds of the day and nanoseconds; a second 60 is the leap second of second 59. -/
def readTime? (cs : List Char) : Option ((Nat × Nat) × List Char) := do
  let (hour, cs) ← readField? cs
  let cs ← readMark? ':' cs
  let (minute, cs) ← readField? cs
  let cs ← readMark? ':' cs
  let (second, cs) ← readField? cs
  let (nano, cs) ← readFraction? cs
  if hour < 24 ∧ minute < 60 ∧ second < 60 then some ((3600 * hour + 60 * minute + second, nano), cs)
  else if hour < 24 ∧ minute < 60 ∧ second = 60 then
    some ((3600 * hour + 60 * minute + 59, 1000000000 + nano), cs)
  else none

def digit? (c : Char) : Option Nat := if c.isDigit then some (c.toNat - 48) else none

/-- Two digits of hours, any colons and blanks, and two digits of minutes. -/
def readHoursMinutes? : List Char → Option (Nat × List Char)
  | a :: b :: cs =>
    match cs.dropWhile fun c => c == ':' || Text.isBlank c with
    | c :: d :: rest => do
      let h1 ← digit? a
      let h2 ← digit? b
      let m1 ← digit? c
      let m2 ← digit? d
      if m1 < 6 then some (3600 * (10 * h1 + h2) + 60 * (10 * m1 + m2), rest) else none
    | _ => none
  | _ => none

/-- Seconds east of universal time. -/
def readOffset? : List Char → Option (Int × List Char)
  | 'Z' :: rest | 'z' :: rest => some (0, rest)
  | '+' :: rest => (readHoursMinutes? rest).map fun r => (r.1, r.2)
  | '-' :: rest | '\u2212' :: rest => (readHoursMinutes? rest).map fun r => (-(r.1 : Int), r.2)
  | u :: t :: c :: rest => if [u, t, c].map Char.toUpper = ['U', 'T', 'C'] then some (0, rest) else none
  | _ => none

def readSeparator? : List Char → Option (List Char)
  | 't' :: rest | 'T' :: rest | ' ' :: rest => some rest
  | _ => none

/-- The local time must be on the calendar, and its offset less than a day. -/
def read? (cs : List Char) : Option (Timestamp × List Char) := do
  let (date, cs) ← readDate? cs
  let cs ← readSeparator? cs
  let ((time, nano), cs) ← readTime? cs
  let (offset, cs) ← readOffset? (Text.trimStart cs)
  let day ← date.toDay?
  let here ← of? (86400 * day + time) nano
  if offset.natAbs < 86400 then
    let t ← of? (here.second - offset) nano
    some (t, cs)
  else none

def parse? (s : String) : Option Timestamp :=
  match read? s.toList with
  | some (t, rest) => if Text.trimStart rest = [] then some t else none
  | none => none

end Keyring.Timestamp
