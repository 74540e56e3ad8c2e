import Keyring.Amount

/-! The decimal texts that are amounts and fees: digits only, at least one of them, with any number of zeros in
front, and a value within the bound. -/
namespace Keyring.Amount

/-- A non-empty text of decimal digits spells the number that they stand for. -/
def Spells (s : String) (n : Nat) : Prop :=
  s.toList ≠ [] ∧ (∀ c ∈ s.toList, c.isDigit) ∧ Nat.ofDigitChars 10 s.toList 0 = n

theorem decimal?_eq_some_iff {s : String} {n : Nat} : decimal? s = some n ↔ Spells s n := by
  simp only [decimal?, Option.ite_none_right_eq_some, Option.some.injEq, List.all_eq_true, and_assoc]
  rfl

theorem Spells.unique {s : String} {m n : Nat} (hm : Spells s m) (hn : Spells s n) : m = n :=
  hm.2.2.symm.trans hn.2.2

theorem below?_eq_some_iff {bound : Nat} {s : String} {n : Nat} :
    below? bound s = some n ↔ Spells s n ∧ n < bound := by
  simp [below?, Option.filter_eq_some_iff, decimal?_eq_some_iff]

theorem parse_eq_ok_iff {s : String} {n : Nat} : parse s = .ok n ↔ Spells s n ∧ n < 2 ^ 256 := by
  rw [← below?_eq_some_iff, parse]
  cases below? (2 ^ 256) s <;> simp

theorem parse_eq_error {s : String} {e : Error} (h : parse s = .error e) : e = .invalidAmount := by
  rw [parse] at h
  split at h <;> cases h
  rfl

theorem parseFee_eq_ok_iff {s : String} {n : Nat} : parseFee s = .ok n ↔ Spells s n ∧ 0 < n ∧ n < 2 ^ 128 := by
  have hsome : (below? (2 ^ 128) s).filter (· ≠ 0) = some n ↔ Spells s n ∧ 0 < n ∧ n < 2 ^ 128 := by
    simp only [Option.filter_eq_some_iff, below?_eq_some_iff, decide_eq_true_eq, Nat.pos_iff_ne_zero, and_assoc,
      and_congr_right_iff]
    exact fun _ => and_comm
  rw [← hsome, parseFee]
  cases (below? (2 ^ 128) s).filter (· ≠ 0) <;> simp

theorem parseFee_eq_error {s : String} {e : Error} (h : parseFee s = .error e) : e = .invalidGasSettings := by
  rw [parseFee] at h
  split at h <;> cases h
  rfl

/-! ### Other texts for a number -/

/-- The texts are decimals of one number, or neither is a decimal. -/
def Alike (s s' : String) : Prop := ∀ n, Spells s n ↔ Spells s' n

theorem Alike.decimal? {s s' : String} (h : Alike s s') : decimal? s = decimal? s' :=
  Option.ext fun n => by rw [decimal?_eq_some_iff, decimal?_eq_some_iff, h n]

theorem Alike.parse {s s' : String} (h : Alike s s') : parse s = parse s' := by
  rw [Amount.parse, Amount.parse, below?, below?, h.decimal?]

theorem Alike.parseFee {s s' : String} (h : Alike s s') : parseFee s = parseFee s' := by
  rw [Amount.parseFee, Amount.parseFee, below?, below?, h.decimal?]

/-- The text with `k` zeros in front. -/
def padded (k : Nat) (s : String) : String := String.ofList (List.replicate k '0') ++ s

theorem ofDigitChars_zeros (k : Nat) (cs : List Char) :
    Nat.ofDigitChars 10 (List.replicate k '0' ++ cs) 0 = Nat.ofDigitChars 10 cs 0 := by
  induction k with
  | zero => rfl
  | succ k ih => exact ih

/-- However many zeros lead a text, they change nothing. -/
theorem alike_padded (k : Nat) {s : String} (hs : s ≠ "") : Alike (padded k s) s := by
  have hne : s.toList ≠ [] := fun h => hs (String.toList_inj.1 h)
  have hdigits : (∀ c ∈ List.replicate k '0' ++ s.toList, c.isDigit) ↔ ∀ c ∈ s.toList, c.isDigit := by
    rw [List.forall_mem_append, and_iff_right]
    exact fun c hc => by rw [List.eq_of_mem_replicate hc]; rfl
  intro n
  rw [Spells, padded, String.toList_append, String.toList_ofList, hdigits, ofDigitChars_zeros, Spells,
    and_iff_right (List.append_ne_nil_of_right_ne_nil _ hne), and_iff_right hne]

end Keyring.Amount
