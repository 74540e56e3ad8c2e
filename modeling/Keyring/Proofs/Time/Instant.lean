import Mathlib.Tactic.Tauto
import Keyring.Proofs.Time.Rfc3339

/-! Instants as clocks show them. The order of instants is that of the dates and times in universal time, with a leap
second behind the second before it. A text that has another time zone is read as the instant at which a clock there
shows the time in the text. -/
namespace Keyring

namespace Calendar

/-! ### The order of days -/

theorem yearStart_le {y z : Int} (h : y ≤ z) : yearStart y ≤ yearStart z := by
  simp only [yearStart]
  omega

theorem yearOf_le {a b : Int} (h : a ≤ b) : yearOf a ≤ yearOf b := by
  obtain ⟨hstart, -⟩ := yearOf_spec a
  obtain ⟨-, hend⟩ := yearOf_spec b
  refine Int.not_lt.1 fun hlt => ?_
  have hle := yearStart_le (show yearOf b + 1 ≤ yearOf a by omega)
  omega

theorem le_locate (month : Nat) (lengths : List Nat) (n : Nat) : month ≤ (locate month lengths n).1 := by
  induction lengths generalizing month n with
  | nil => exact Nat.le_refl month
  | cons length rest ih =>
    rw [locate]
    split
    · exact Nat.le_refl month
    · exact Nat.le_trans (Nat.le_succ month) (ih (month + 1) (n - length))

theorem locate_lt (month : Nat) (lengths : List Nat) {m n : Nat} (h : m < n) :
    (locate month lengths m).1 < (locate month lengths n).1
    ∨ ((locate month lengths m).1 = (locate month lengths n).1
      ∧ (locate month lengths m).2 < (locate month lengths n).2) := by
  induction lengths generalizing month m n with
  | nil => exact .inr ⟨rfl, Nat.succ_lt_succ h⟩
  | cons length rest ih =>
    rw [locate, locate]
    by_cases hn : n < length
    · rw [if_pos hn, if_pos (Nat.lt_trans h hn)]
      exact .inr ⟨rfl, Nat.succ_lt_succ h⟩
    · rw [if_neg hn]
      by_cases hm : m < length
      · rw [if_pos hm]
        exact .inl (Nat.lt_of_lt_of_le (Nat.lt_succ_self month) (le_locate (month + 1) rest (n - length)))
      · rw [if_neg hm]
        exact ih (month + 1) (by omega)

/-- Year, month and day of a date. -/
def Date.reading (d : Date) : List Int := [d.year, d.month, d.day]

theorem ofDay_lt {a b : Int} (h : a < b) (r r' : List Int) :
    (Date.ofDay a).reading ++ r < (Date.ofDay b).reading ++ r' := by
  obtain ⟨hstart, -⟩ := yearOf_spec a
  have hyear := yearOf_le (Int.le_of_lt h)
  simp only [Date.reading, Date.ofDay, List.cons_append, List.nil_append, List.cons_lt_cons_iff, Int.ofNat_lt,
    Int.ofNat_inj]
  rcases Int.lt_or_eq_of_le hyear with hlt | heq
  · exact .inl hlt
  · rw [← heq]
    have hmonth := locate_lt 1 (monthLengths (yearOf a))
      (show (a - yearStart (yearOf a)).toNat < (b - yearStart (yearOf a)).toNat by omega)
    tauto

end Calendar

namespace Timestamp

open Calendar Text

/-! ### The order of instants -/

/-- What a clock in universal time shows: the date, hours, minutes and seconds, which are 60 in a leap second, and the
nanoseconds. -/
def reading (t : Timestamp) : List Int :=
  let time := t.second % 86400
  (Date.ofDay (t.second / 86400)).reading
    ++ [time / 3600, time / 60 % 60, time % 60 + (if t.nano < 1000000000 then 0 else 1), t.nano % 1000000000]

variable {t u : Timestamp}

theorem ext_of_eq (hsecond : t.second = u.second) (hnano : t.nano = u.nano) : t = u := by
  cases t
  cases u
  cases hsecond
  cases hnano
  rfl

theorem reading_lt_of_lt (h : t.second < u.second ∨ (t.second = u.second ∧ t.nano < u.nano)) :
    t.reading < u.reading := by
  have hleap := t.leap
  by_cases hday : t.second / 86400 < u.second / 86400
  · exact ofDay_lt hday _ _
  · have hsame : t.second / 86400 = u.second / 86400 := by omega
    rw [reading, reading, hsame]
    refine List.append_left_lt ?_
    simp only [List.cons_lt_cons_iff, List.not_lt_nil, and_false, or_false]
    have hnano := t.nano_lt
    have hnano' := u.nano_lt
    have hleap' := u.leap
    split <;> split <;> omega

theorem reading_lt_iff : t.reading < u.reading ↔ t.second < u.second ∨ (t.second = u.second ∧ t.nano < u.nano) := by
  refine ⟨fun h => ?_, reading_lt_of_lt⟩
  refine Decidable.byContradiction fun hge => ?_
  by_cases hgt : u.second < t.second ∨ (u.second = t.second ∧ u.nano < t.nano)
  · exact List.lt_asymm h (reading_lt_of_lt hgt)
  · rw [ext_of_eq (t := t) (u := u) (by omega) (by omega)] at h
    exact List.lt_irrefl _ h

/-- Instants are compared as the clock readings that they are. -/
theorem le_iff_reading : t.le u = true ↔ ¬ u.reading < t.reading := by
  rw [reading_lt_iff, le]
  simp only [Bool.or_eq_true, Bool.and_eq_true, decide_eq_true_eq, beq_iff_eq]
  omega

theorem eq_of_le_of_le (h : t.le u = true) (h' : u.le t = true) : t = u := by
  simp only [le, Bool.or_eq_true, Bool.and_eq_true, decide_eq_true_eq, beq_iff_eq] at h h'
  exact ext_of_eq (by omega) (by omega)

theorem le_trans (v : Timestamp) (h : t.le u = true) (h' : u.le v = true) : t.le v = true := by
  simp only [le, Bool.or_eq_true, Bool.and_eq_true, decide_eq_true_eq, beq_iff_eq] at h h' ⊢
  omega

theorem le_total (t u : Timestamp) : (t.le u || u.le t) = true := by
  simp only [le, Bool.or_eq_true, Bool.and_eq_true, decide_eq_true_eq, beq_iff_eq]
  omega

/-! ### Texts in other time zones -/

/-- A time zone by its distance from universal time. -/
def zoneText (minutes : Int) : List Char :=
  (if minutes < 0 then '-' else '+') :: (padded 2 (minutes.natAbs / 60) ++ ':' :: padded 2 (minutes.natAbs % 60))

theorem padded_two : ∀ n < 100, padded 2 n = [Char.ofNat (48 + n / 10), Char.ofNat (48 + n % 10)] := by
  decide

theorem digit?_ofNat : ∀ k < 10, digit? (Char.ofNat (48 + k)) = some k := by
  decide

theorem not_gap_ofNat : ∀ k < 10, (Char.ofNat (48 + k) == ':' || isBlank (Char.ofNat (48 + k))) = false := by
  decide

theorem readHoursMinutes?_padded {hours minutes : Nat} (hhours : hours < 100) (hminutes : minutes < 60) :
    readHoursMinutes? (padded 2 hours ++ ':' :: padded 2 minutes) = some (3600 * hours + 60 * minutes, []) := by
  have hgap := not_gap_ofNat (minutes / 10) (by omega)
  rw [padded_two hours hhours, padded_two minutes (by omega)]
  simp only [List.cons_append, List.nil_append, readHoursMinutes?, List.dropWhile_cons, hgap, beq_self_eq_true,
    Bool.true_or, if_true, Bool.false_eq_true, if_false]
  rw [digit?_ofNat _ (show hours / 10 < 10 by omega), digit?_ofNat _ (show hours % 10 < 10 by omega),
    digit?_ofNat _ (show minutes / 10 < 10 by omega), digit?_ofNat _ (show minutes % 10 < 10 by omega)]
  simp only [Option.bind_eq_bind, Option.bind_some, if_pos (show minutes / 10 < 6 by omega)]
  congr 2
  omega

theorem readOffset?_zoneText {minutes : Int} (h : minutes.natAbs < 1440) :
    readOffset? (zoneText minutes) = some (60 * minutes, []) := by
  have hread := readHoursMinutes?_padded (show minutes.natAbs / 60 < 100 by omega)
    (show minutes.natAbs % 60 < 60 by omega)
  rw [zoneText]
  split
  · next hneg =>
    rw [readOffset?, hread, Option.map_some]
    congr 2
    omega
  · next hpos =>
    rw [readOffset?, hread, Option.map_some]
    congr 2
    omega

/-- The text of a local time, in a zone that is whole minutes away, is read as the instant in universal time. -/
theorem parse?_zoned (t : Timestamp) {minutes : Int} (h : minutes.natAbs < 1440) :
    parse? (String.ofList (t.stem ++ zoneText minutes)) = of? (t.second - 60 * minutes) t.nano := by
  have hsign : ∃ sign rest, zoneText minutes = sign :: rest ∧ (sign = '-' ∨ sign = '+') := by
    rw [zoneText]
    split
    · exact ⟨_, _, rfl, .inl rfl⟩
    · exact ⟨_, _, rfl, .inr rfl⟩
  obtain ⟨sign, rest, hzone, hsign⟩ := hsign
  have hread := t.read?_stem (readOffset?_zoneText h) ?_ ?_ ?_ (by omega)
  · rw [parse?, String.toList_ofList, hread]
    cases of? (t.second - 60 * minutes) t.nano <;> rfl
  all_goals
    rw [hzone]
    rcases hsign with rfl | rfl
  · exact trimStart_cons (by decide)
  · exact trimStart_cons (by decide)
  · exact noDigit_cons rfl
  · exact noDigit_cons rfl
  · simp
  · simp

end Timestamp
end Keyring
