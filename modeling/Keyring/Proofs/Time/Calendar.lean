import Keyring.Time.Calendar

/-! Days and dates. Every day lies in exactly one year, and the date of a day is on the calendar and leads back to
that day. -/
namespace Keyring.Calendar

theorem isLeap_iff {y : Int} : isLeap y = true ↔ y % 4 = 0 ∧ (y % 100 ≠ 0 ∨ y % 400 = 0) := by
  simp [isLeap]

theorem yearStart_succ (y : Int) : yearStart (y + 1) = yearStart y + if isLeap y then 366 else 365 := by
  simp only [yearStart, isLeap_iff]
  split <;> omega

theorem daysBefore_monthLengths (y : Int) : daysBefore (monthLengths y) 12 = if isLeap y then 366 else 365 := by
  rw [monthLengths]
  cases isLeap y <;> rfl

/-- The mean length of a year puts a day into its year or one next to it. -/
theorem estimate_spec (day : Int) :
    yearStart (1970 + day * 400 / 146097 - 1) ≤ day ∧ day < yearStart (1970 + day * 400 / 146097 + 1 + 1) := by
  have hq : 146097 * (day * 400 / 146097) ≤ day * 400 ∧ day * 400 < 146097 * (day * 400 / 146097) + 146097 := by
    omega
  generalize day * 400 / 146097 = q at hq
  simp only [yearStart]
  omega

/-- The year of a day is the one that starts at or before it and does not end before it. -/
theorem yearOf_spec (day : Int) : yearStart (yearOf day) ≤ day ∧ day < yearStart (yearOf day + 1) := by
  have ⟨hlow, hhigh⟩ := estimate_spec day
  simp only [yearOf]
  split
  · next h => exact ⟨hlow, by rwa [Int.sub_add_cancel]⟩
  · next h =>
    split
    · next h' => exact ⟨h', hhigh⟩
    · next h' => exact ⟨by omega, by omega⟩

/-! ### Months -/

theorem locate_spec {lengths : List Nat} (month n months : Nat) (h : n < daysBefore lengths months) :
    ∃ i length, locate month lengths n = (month + i, n - daysBefore lengths i + 1) ∧ lengths[i]? = some length
      ∧ daysBefore lengths i ≤ n ∧ n - daysBefore lengths i < length := by
  induction lengths generalizing month n months with
  | nil => simp [daysBefore] at h
  | cons head rest ih =>
    rw [locate]
    split
    · next hlt => exact ⟨0, head, rfl, rfl, Nat.zero_le n, hlt⟩
    · next hge =>
      cases months with
      | zero => simp [daysBefore] at h
      | succ months =>
        rw [daysBefore] at h
        obtain ⟨i, length, hlocate, hlength, hle, hlt⟩ := ih (month + 1) (n - head) months (by omega)
        refine ⟨i + 1, length, ?_, hlength, ?_, ?_⟩
        · rw [hlocate, daysBefore]
          congr 1 <;> omega
        · rw [daysBefore]
          omega
        · rw [daysBefore]
          omega

/-- The day of the date of a day is that day. -/
theorem toDay?_ofDay (day : Int) : (Date.ofDay day).toDay? = some day := by
  obtain ⟨hstart, hend⟩ := yearOf_spec day
  have hlt : (day - yearStart (yearOf day)).toNat < daysBefore (monthLengths (yearOf day)) 12 := by
    rw [yearStart_succ] at hend
    rw [daysBefore_monthLengths]
    split at hend <;> simp [*] <;> omega
  obtain ⟨i, length, hlocate, hlength, hle, hday⟩ := locate_spec 1 _ 12 hlt
  simp only [Date.ofDay, hlocate, Date.toDay?, Nat.add_sub_cancel_left, hlength]
  rw [if_pos (by omega)]
  congr 1
  omega

theorem le_of_mem_monthLengths {y : Int} {length : Nat} (h : length ∈ monthLengths y) : length ≤ 31 := by
  simp only [monthLengths, List.mem_cons, List.not_mem_nil, or_false] at h
  split at h <;> omega

/-- The month and day of a date on the calendar have two digits at most. -/
theorem lt_of_toDay? {d : Date} {n : Int} (h : d.toDay? = some n) : d.month < 100 ∧ d.day < 100 := by
  rw [Date.toDay?] at h
  split at h
  · cases h
  · next length hlength =>
    have hday := le_of_mem_monthLengths (List.mem_of_getElem? hlength)
    have hmonth : d.month - 1 < 12 := (List.getElem?_eq_some_iff.1 hlength).1
    split at h
    · omega
    · cases h

end Keyring.Calendar
