import Keyring.Json.Literal
import Keyring.Json.Printer
import Keyring.Proofs.Text.Digits

/-! Literals read back. A string comes back character by character, whatever characters it has; an integer of 64
bits comes back exactly, when something follows that cannot go on with a number. -/
namespace Keyring.Json

/-! ### Strings -/

theorem unit?_pair {n : Nat} (h : n < 32) :
    unit? '0' '0' (Hex.digit (n / 16)) (Hex.digit (n % 16)) = some n := by
  have : ∀ n < 32, unit? '0' '0' (Hex.digit (n / 16)) (Hex.digit (n % 16)) = some n := by decide
  exact this n h

theorem readString_of_unit?_none {a b c d : Char} {cs : List Char} (hu : unit? a b c d = none) :
    readString ('\\' :: 'u' :: a :: b :: c :: d :: cs) = none := by
  by_cases hcs : ∃ e f g h rest, cs = '\\' :: 'u' :: e :: f :: g :: h :: rest
  · obtain ⟨e, f, g, h, rest, rfl⟩ := hcs
    rw [readString]
    simp [hu]
  · rw [readString]
    · simp [hu]
    · intro e f g h rest heq
      exact hcs ⟨e, f, g, h, rest, heq⟩

/-- A unit that is no surrogate is read by itself, also in front of another. -/
theorem readString_unit {a b c d : Char} {u : Nat} {cs : List Char} {r : Spelled} (hu : unit? a b c d = some u)
    (hlt : u < 0xd800) (h : readString cs = some r) :
    readString ('\\' :: 'u' :: a :: b :: c :: d :: cs) = some (r.push (Char.ofNat u)) := by
  have hhigh : isHigh u = false := by
    simp [isHigh]
    omega
  have hlow : isLow u = false := by
    simp [isLow]
    omega
  by_cases hcs : ∃ e f g h rest, cs = '\\' :: 'u' :: e :: f :: g :: h :: rest
  · obtain ⟨e, f, g, h', rest, rfl⟩ := hcs
    rw [readString]
    cases hv : unit? e f g h' with
    | none =>
      rw [readString_of_unit?_none hv] at h
      cases h
    | some v => simp [hu, hhigh, hlow, h]
  · rw [readString]
    · simp [hu, hhigh, hlow, h]
    · intro e f g h' rest heq
      exact hcs ⟨e, f, g, h', rest, heq⟩

theorem readString_escaped {c e : Char} {cs : List Char} (hc : c ≠ 'u') (he : escaped? c = some e) :
    readString ('\\' :: c :: cs) = (readString cs).map (Spelled.push e) := by
  rw [readString]
  · simp only [he]
  · rintro _ _ _ _ _ _ _ _ _ rfl
    exact absurd rfl hc
  · rintro _ _ _ _ _ rfl
    exact absurd rfl hc

/-- A character is written as a backslash and a letter, as a unit, or as it is. -/
theorem escape_cases (c : Char) :
    (∃ d, d ≠ 'u' ∧ escaped? d = some c ∧ escape c = ['\\', d])
    ∨ (c.toNat < 32 ∧ escape c = '\\' :: 'u' :: '0' :: '0' :: Hex.pair (UInt8.ofNat c.toNat))
    ∨ (c ≠ '"' ∧ c ≠ '\\' ∧ ¬ c.toNat < 32 ∧ escape c = [c]) := by
  rw [escape]
  split
  · next h => exact .inl ⟨'"', by decide, by rw [h]; rfl, rfl⟩
  split
  · next h => exact .inl ⟨'\\', by decide, by rw [h]; rfl, rfl⟩
  split
  · next h => exact .inl ⟨'b', by decide, by rw [h]; rfl, rfl⟩
  split
  · next h => exact .inl ⟨'f', by decide, by rw [h]; rfl, rfl⟩
  split
  · next h => exact .inl ⟨'n', by decide, by rw [h]; rfl, rfl⟩
  split
  · next h => exact .inl ⟨'r', by decide, by rw [h]; rfl, rfl⟩
  split
  · next h => exact .inl ⟨'t', by decide, by rw [h]; rfl, rfl⟩
  split
  · next h => exact .inr (.inl ⟨h, rfl⟩)
  · next hquote hslash _ _ _ _ _ h => exact .inr (.inr ⟨hquote, hslash, h, rfl⟩)

theorem readString_escape {c : Char} {cs : List Char} {r : Spelled} (h : readString cs = some r) :
    readString (escape c ++ cs) = some (r.push c) := by
  rcases escape_cases c with ⟨d, hd, hc, he⟩ | ⟨hc, he⟩ | ⟨hquote, hslash, hc, he⟩
  · rw [he, List.cons_append, List.cons_append, List.nil_append, readString_escaped hd hc, h]
    rfl
  · have hunit := unit?_pair hc
    have hbyte : (UInt8.ofNat c.toNat).toNat = c.toNat := UInt8.toNat_ofNat_of_lt' (show c.toNat < 256 by omega)
    rw [he, Hex.pair, hbyte]
    simp only [List.cons_append, List.nil_append]
    rw [readString_unit hunit (by omega) h, Char.ofNat_toNat]
  · rw [he, List.cons_append, List.nil_append, readString_plain hquote hslash hc, h]
    rfl

/-- What is written for a string reads as the string. -/
theorem readString_quote (cs rest : List Char) :
    readString (cs.flatMap escape ++ '"' :: rest) = some (some cs, rest) := by
  induction cs with
  | nil => rw [List.flatMap_nil, List.nil_append, readString]
  | cons c cs ih =>
    rw [List.flatMap_cons, List.append_assoc, readString_escape ih]
    rfl

/-! ### Integers -/

/-- What may follow a value inside a text: the end, or a mark that no number goes on with. -/
def Ends (cs : List Char) : Prop := ∀ c ∈ cs.head?, c ∈ [',', ']', '\x7d']

theorem Ends.noDigit {cs : List Char} (h : Ends cs) : Text.NoDigit cs := by
  intro c hc
  have hmem := h c hc
  simp only [List.mem_cons, List.not_mem_nil, or_false] at hmem
  rcases hmem with rfl | rfl | rfl <;> rfl

theorem readDigits_of_noDigit {cs : List Char} (h : Text.NoDigit cs) : readDigits cs = ([], cs) := by
  cases cs with
  | nil => rfl
  | cons c cs =>
    rw [readDigits, h c rfl]
    rfl

theorem readDigits_append {ds rest : List Char} (hds : ∀ c ∈ ds, c.isDigit) (hrest : Text.NoDigit rest) :
    readDigits (ds ++ rest) = (ds.map fun c => c.toNat - 48, rest) := by
  induction ds with
  | nil => exact readDigits_of_noDigit hrest
  | cons c ds ih =>
    rw [List.forall_mem_cons] at hds
    rw [List.cons_append, readDigits, if_pos hds.1, ih hds.2]
    rfl

theorem readFraction_of_ends {cs : List Char} (h : Ends cs) : readFraction cs = some (none, cs) := by
  rw [readFraction]
  rintro rest rfl
  exact absurd (h '.' rfl) (by decide)

theorem readExponent_of_ends {cs : List Char} (h : Ends cs) : readExponent cs = some (none, cs) := by
  rw [readExponent]
  all_goals
    rintro rest rfl
    have := h _ rfl
    revert this
    decide

/-- Only zero is written with a zero in front. -/
theorem head?_toDigits {n : Nat} (h : n ≠ 0) : (Nat.toDigits 10 n).head? ≠ some '0' := by
  induction n using Nat.strongRecOn with
  | ind n ih =>
    rw [Nat.toDigits_eq_if (by omega)]
    split
    · next hlt =>
      have hdigit : ∀ n < 10, n ≠ 0 → Nat.digitChar n ≠ '0' := by decide
      rw [List.head?_cons, ne_eq, Option.some.injEq]
      exact hdigit n hlt h
    · have hfront := ih (n / 10) (by omega) (by omega)
      obtain ⟨c, cs, hcs⟩ := List.exists_cons_of_ne_nil (Nat.toDigits_ne_nil (n := n / 10) (b := 10))
      rw [hcs] at hfront ⊢
      exact hfront

theorem digitsValue_toDigits (n : Nat) :
    digitsValue ((Nat.toDigits 10 n).map fun c => c.toNat - 48) = n := by
  rw [digitsValue, List.foldl_map]
  exact Nat.ofDigitChars_ten_toDigits

theorem readWhole_toDigits (n : Nat) {rest : List Char} (hrest : Text.NoDigit rest) :
    readWhole (Nat.toDigits 10 n ++ rest) = some ((Nat.toDigits 10 n).map fun c => c.toNat - 48, rest) := by
  have hdigits : ∀ c ∈ Nat.toDigits 10 n, c.isDigit := fun _ => Nat.isDigit_of_mem_toDigits (by omega) (by omega)
  by_cases hn : n = 0
  · rw [hn, Nat.toDigits_zero, List.cons_append, List.nil_append, readWhole, readDigits_of_noDigit hrest]
    rfl
  · obtain ⟨c, cs, hcs⟩ := List.exists_cons_of_ne_nil (Nat.toDigits_ne_nil (n := n) (b := 10))
    have hc : c ≠ '0' := by
      have := head?_toDigits hn
      rw [hcs] at this
      simpa using this
    have hread := readDigits_append hdigits hrest
    rw [hcs] at hread ⊢
    rw [List.cons_append] at hread ⊢
    rw [readWhole, hread]
    · rfl
    · rintro _ heq
      cases heq
      exact hc rfl

theorem readUnsigned_toDigits (negative : Bool) (n : Nat) {rest : List Char} (hrest : Ends rest) :
    readUnsigned negative (Nat.toDigits 10 n ++ rest) =
      some (⟨negative, (Nat.toDigits 10 n).map fun c => c.toNat - 48, none, none⟩, rest) := by
  rw [readUnsigned, readWhole_toDigits n hrest.noDigit]
  simp only [readFraction_of_ends hrest, readExponent_of_ends hrest]

theorem readNumber_toDigits (n : Nat) {rest : List Char} (hrest : Ends rest) :
    readNumber (Nat.toDigits 10 n ++ rest) =
      some (⟨false, (Nat.toDigits 10 n).map fun c => c.toNat - 48, none, none⟩, rest) := by
  have hread := readUnsigned_toDigits false n hrest
  obtain ⟨c, cs, hcs⟩ := List.exists_cons_of_ne_nil (Nat.toDigits_ne_nil (n := n) (b := 10))
  have hc : c.isDigit :=
    Nat.isDigit_of_mem_toDigits (b := 10) (n := n) (by omega) (by omega) (hcs ▸ List.mem_cons_self)
  rw [hcs] at hread ⊢
  rw [← hread, readNumber]
  rintro _ heq
  cases heq
  exact absurd hc (by decide)

/-- An integer of 64 bits, signed or not, is read for what it is. -/
theorem readNumber_intText {n : Int} {rest : List Char} (hlow : -2 ^ 63 ≤ n) (hhigh : n < 2 ^ 64)
    (hrest : Ends rest) :
    ∃ number, readNumber (intText n ++ rest) = some (number, rest) ∧ number.value = int n := by
  have hvalue := digitsValue_toDigits n.natAbs
  rw [intText]
  split
  · next hneg =>
    refine ⟨_, readUnsigned_toDigits true n.natAbs hrest, ?_⟩
    simp only [Number.value, hvalue, Option.isSome_none, Bool.false_eq_true, or_self, if_false, if_true]
    rw [if_pos (by omega), show (-(n.natAbs : Int)) = n by omega]
  · next hneg =>
    refine ⟨_, readNumber_toDigits n.natAbs hrest, ?_⟩
    simp only [Number.value, hvalue, Option.isSome_none, Bool.false_eq_true, or_self, if_false]
    rw [if_pos (by omega), show ((n.natAbs : Nat) : Int) = n by omega]

end Keyring.Json
