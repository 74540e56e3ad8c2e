import Keyring.Proofs.Text.Digits
import Keyring.Proofs.Time.Calendar
import Keyring.Time.Rfc3339

/-! The text of an instant read back. Every field of the text is a run of digits that a mark ends, so the reader,
which is more liberal, cannot take it in another way; the instant comes back to the nanosecond, in a leap second and
in every year. -/
namespace Keyring.Timestamp

open Calendar Text

/-! ### Padded numbers -/

theorem number_eq (ds : List Char) : number ds = Nat.ofDigitChars 10 ds 0 := rfl

theorem isDigit_padded {width n : Nat} {c : Char} (h : c ∈ padded width n) : c.isDigit := by
  rcases List.mem_append.1 h with h | h
  · rw [List.eq_of_mem_replicate h]
    rfl
  · exact Nat.isDigit_of_mem_toDigits (by omega) (by omega) h

theorem padded_ne_nil (width n : Nat) : padded width n ≠ [] := by
  simp [padded, Nat.toDigits_ne_nil]

theorem length_padded {width n : Nat} (hwidth : 0 < width) (h : n < 10 ^ width) :
    (padded width n).length = width := by
  have hle := (Nat.length_toDigits_le_iff (by omega) hwidth).2 h
  rw [padded, List.length_append, List.length_replicate]
  omega

theorem ofDigitChars_zeros (k : Nat) (ds : List Char) :
    Nat.ofDigitChars 10 (List.replicate k '0' ++ ds) 0 = Nat.ofDigitChars 10 ds 0 := by
  induction k with
  | zero => rfl
  | succ k ih => rw [List.replicate_succ, List.cons_append, Nat.ofDigitChars_cons]; exact ih

theorem number_padded (width n : Nat) : number (padded width n) = n := by
  rw [number_eq, padded, ofDigitChars_zeros, Nat.ofDigitChars_ten_toDigits]

theorem readNumber?_digits {width : Nat} {ds rest : List Char} (hne : ds ≠ []) (hds : ∀ c ∈ ds, c.isDigit)
    (hle : ds.length ≤ width) (hrest : NoDigit rest) : readNumber? width (ds ++ rest) = some (number ds, rest) := by
  have htake : (ds ++ rest).take width = ds ++ rest.take (width - ds.length) := by
    rw [List.take_append, List.take_of_length_le hle]
  simp only [readNumber?, htake, takeWhile_digits hds (hrest.take _), if_neg hne, List.drop_left]

theorem readNumber?_padded {width n : Nat} {rest : List Char} (hwidth : 0 < width) (h : n < 10 ^ width)
    (hrest : NoDigit rest) : readNumber? width (padded width n ++ rest) = some (n, rest) := by
  rw [readNumber?_digits (padded_ne_nil width n) (fun _ => isDigit_padded) (Nat.le_of_eq (length_padded hwidth h))
    hrest, number_padded]

theorem readField?_padded {n : Nat} {rest : List Char} (h : n < 100) (hrest : NoDigit rest) :
    readField? (padded 2 n ++ rest) = some (n, rest) := by
  rw [readField?, trimStart_digits (padded_ne_nil 2 n) fun _ => isDigit_padded]
  exact readNumber?_padded (by omega) h hrest

theorem readMark?_cons {mark : Char} {rest : List Char} (h : isBlank mark = false) :
    readMark? mark (mark :: rest) = some rest := by
  rw [readMark?, trimStart_cons h]
  simp

/-! ### Dates -/

theorem readNumber?_signed {n : Nat} {rest : List Char} (hrest : NoDigit rest) :
    readNumber? (padded 4 n ++ rest).length (padded 4 n ++ rest) = some (n, rest) := by
  rw [readNumber?_digits (padded_ne_nil 4 n) (fun _ => isDigit_padded) (by simp) hrest, number_padded]

theorem readYear?_yearText (y : Int) {rest : List Char} (hrest : NoDigit rest) :
    readYear? (yearText y ++ rest) = some (y, rest) := by
  rw [yearText]
  split
  · next hy =>
    have hdigits : trimStart (padded 4 y.toNat ++ rest) = padded 4 y.toNat ++ rest :=
      trimStart_digits (padded_ne_nil 4 y.toNat) fun _ => isDigit_padded
    obtain ⟨c, cs, hcs⟩ := List.exists_cons_of_ne_nil (padded_ne_nil 4 y.toNat)
    have hc : c.isDigit := isDigit_padded (hcs ▸ List.mem_cons_self)
    have hnumber := readNumber?_padded (by omega) (show y.toNat < 10 ^ 4 by omega) hrest
    rw [hcs] at hdigits hnumber ⊢
    rw [readYear?, hdigits]
    split
    · next heq => cases heq; exact absurd hc (by decide)
    · next heq => cases heq; exact absurd hc (by decide)
    · rw [hnumber, Option.map_some, Int.toNat_of_nonneg hy.1]
  · next hy =>
    split
    · next hneg =>
      have hy : -(y.natAbs : Int) = y := by omega
      rw [List.cons_append, readYear?, trimStart_cons (by decide)]
      simp only [readNumber?_signed hrest, Option.map_some, hy]
    · next hpos =>
      have hy : (y.natAbs : Int) = y := by omega
      rw [List.cons_append, readYear?, trimStart_cons (by decide)]
      simp only [readNumber?_signed hrest, Option.map_some, hy]

theorem readDate?_append (d : Date) {rest : List Char} (hmonth : d.month < 100) (hday : d.day < 100)
    (hrest : NoDigit rest) :
    readDate? (yearText d.year ++ '-' :: (padded 2 d.month ++ '-' :: (padded 2 d.day ++ rest))) =
      some (d, rest) := by
  rw [readDate?, readYear?_yearText d.year (noDigit_cons rfl)]
  simp only [Option.bind_eq_bind, Option.bind_some]
  rw [readMark?_cons (by decide)]
  simp only [Option.bind_some]
  rw [readField?_padded hmonth (noDigit_cons rfl)]
  simp only [Option.bind_some]
  rw [readMark?_cons (by decide)]
  simp only [Option.bind_some]
  rw [readField?_padded hday hrest]
  rfl

/-! ### Times -/

/-- Three, six or nine digits of a fraction are read for what they stand for. -/
theorem readFraction?_padded {width n : Nat} {rest : List Char} (hwidth : 0 < width) (hle : width ≤ 9)
    (h : n < 10 ^ width) (hrest : NoDigit rest) :
    readFraction? ('.' :: padded width n ++ rest) = some (n * 10 ^ (9 - width), rest) := by
  have hlength := length_padded hwidth h
  have hdigits : ∀ c ∈ padded width n, c.isDigit := fun _ => isDigit_padded
  have htake : (padded width n ++ rest).take 9 = padded width n ++ rest.take (9 - width) := by
    rw [List.take_append, List.take_of_length_le (by omega), hlength]
  rw [List.cons_append, readFraction?]
  simp only [htake, takeWhile_digits hdigits (hrest.take _), if_neg (padded_ne_nil width n), number_padded, hlength,
    dropWhile_digits hdigits hrest]

theorem readFraction?_fractionText {nano : Nat} {rest : List Char} (h : nano < 1000000000) (hrest : NoDigit rest)
    (hpoint : rest.head? ≠ some '.') : readFraction? (fractionText nano ++ rest) = some (nano, rest) := by
  rw [fractionText]
  split
  · next hzero =>
    rw [hzero, List.nil_append]
    cases rest with
    | nil => rfl
    | cons c cs =>
      rw [readFraction?]
      rintro cs' heq
      cases heq
      exact hpoint rfl
  · split
    · rw [readFraction?_padded (by omega) (by omega) (by omega) hrest]
      congr 2
      omega
    · split
      · rw [readFraction?_padded (by omega) (by omega) (by omega) hrest]
        congr 2
        omega
      · rw [readFraction?_padded (by omega) (by omega) (by omega) hrest]
        simp

theorem noDigit_fractionText {nano : Nat} {rest : List Char} (hrest : NoDigit rest) :
    NoDigit (fractionText nano ++ rest) := by
  rw [fractionText]
  split
  · exact hrest
  · split
    · exact noDigit_cons rfl
    · split <;> exact noDigit_cons rfl

/-- The time of day in seconds and nanoseconds; a leap second is written as second 60. -/
theorem readTime?_append {time nano : Nat} {rest : List Char} (htime : time < 86400) (hnano : nano < 2000000000)
    (hleap : 1000000000 ≤ nano → time % 60 = 59) (hrest : NoDigit rest) (hpoint : rest.head? ≠ some '.') :
    readTime? (padded 2 (time / 3600) ++ ':' :: (padded 2 (time / 60 % 60) ++ ':' ::
      (padded 2 (time % 60 + if nano < 1000000000 then 0 else 1)
        ++ (fractionText (nano % 1000000000) ++ rest)))) = some ((time, nano), rest) := by
  have hsecond : (time % 60 + if nano < 1000000000 then 0 else 1) < 100 := by split <;> omega
  rw [readTime?, readField?_padded (by omega) (noDigit_cons rfl)]
  simp only [Option.bind_eq_bind, Option.bind_some]
  rw [readMark?_cons (by decide)]
  simp only [Option.bind_some]
  rw [readField?_padded (by omega) (noDigit_cons rfl)]
  simp only [Option.bind_some]
  rw [readMark?_cons (by decide)]
  simp only [Option.bind_some]
  rw [readField?_padded hsecond (noDigit_fractionText hrest)]
  simp only [Option.bind_some]
  rw [readFraction?_fractionText (by omega) hrest hpoint]
  simp only [Option.bind_some]
  by_cases h : nano < 1000000000
  · rw [if_pos h, if_pos (by omega)]
    congr 3 <;> omega
  · have := hleap (by omega)
    rw [if_neg h, if_neg (by omega), if_pos (by omega)]
    congr 3 <;> omega

/-! ### Instants -/

theorem of?_self (t : Timestamp) : of? t.second t.nano = some t := by
  rw [of?, dif_pos ⟨⟨t.low, t.high⟩, t.nano_lt, t.leap⟩]

/-- What stands in front of the time zone. -/
def stem (t : Timestamp) : List Char := t.render.dropLast

theorem render_eq (t : Timestamp) : t.render = t.stem ++ ['Z'] := by
  rw [stem, render, List.dropLast_concat]

/-- The date and the time are read as those of a clock in the zone that stands behind them. -/
theorem read?_stem (t : Timestamp) {zone : List Char} {offset : Int} (hzone : readOffset? zone = some (offset, []))
    (hblank : trimStart zone = zone) (hdigit : NoDigit zone) (hpoint : zone.head? ≠ some '.')
    (hoffset : offset.natAbs < 86400) :
    read? (t.stem ++ zone) = (of? (t.second - offset) t.nano).map fun u => (u, []) := by
  obtain ⟨hmonth, hday⟩ := lt_of_toDay? (toDay?_ofDay (t.second / 86400))
  have hleap : 1000000000 ≤ t.nano → (t.second % 86400).toNat % 60 = 59 := by
    have := t.leap
    omega
  rw [stem, render, List.dropLast_concat]
  simp only [List.append_assoc, List.cons_append]
  rw [read?, readDate?_append _ hmonth hday (noDigit_cons rfl)]
  simp only [Option.bind_eq_bind, Option.bind_some, readSeparator?]
  rw [readTime?_append (by omega) t.nano_lt hleap hdigit hpoint]
  simp only [Option.bind_some]
  rw [hblank, hzone]
  simp only [Option.bind_some, toDay?_ofDay]
  have hsecond : 86400 * (t.second / 86400) + ((t.second % 86400).toNat : Int) = t.second := by omega
  rw [hsecond, of?_self, Option.bind_some, if_pos hoffset]
  cases of? (t.second - offset) t.nano <;> rfl

theorem read?_render (t : Timestamp) : read? t.render = some (t, []) := by
  rw [render_eq, t.read?_stem rfl rfl (noDigit_cons rfl) (by simp) (by decide), Int.sub_zero, of?_self, Option.map_some]

theorem parse?_toString (t : Timestamp) : parse? t.toString = some t := by
  rw [parse?, toString, String.toList_ofList, read?_render]
  rfl

end Keyring.Timestamp
