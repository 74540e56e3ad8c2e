import Mathlib.Data.List.TakeWhile
import Mathlib.Data.Nat.Digits.Lemmas
import Keyring.Base58.Check
import Keyring.Proofs.Bytes

/-! Base-58 text read back. Bytes and their texts correspond to each other: what was written is read, and a text is
read only if it is what the bytes are written as. The number of digits, and the first of them, follow from the size of
the number. -/
namespace Keyring.Base58

/-! ### Numerals -/

theorem numeralUpTo_eq {k n : Nat} (h : n < 2 ^ k) : numeralUpTo k n = ((Nat.digits 58 n).map digit).reverse := by
  induction k generalizing n with
  | zero =>
    have : n = 0 := by simpa using h
    simp [this, numeralUpTo]
  | succ k ih =>
    rw [numeralUpTo]
    split
    · next hn => simp [hn]
    · next hn =>
      have hquot : n / 58 < 2 ^ k := by
        rw [Nat.pow_succ] at h
        omega
      rw [ih hquot, Nat.digits_def' (by decide) (Nat.pos_of_ne_zero hn), List.map_cons, List.reverse_cons]

theorem numeral_eq (n : Nat) : numeral n = ((Nat.digits 58 n).map digit).reverse :=
  numeralUpTo_eq Nat.lt_log2_self

theorem numeral_of_pos {n : Nat} (h : 0 < n) : numeral n = numeral (n / 58) ++ [digit (n % 58)] := by
  rw [numeral_eq, numeral_eq, Nat.digits_def' (by decide) h, List.map_cons, List.reverse_cons]

theorem length_numeral_le_iff {n k : Nat} : (numeral n).length ≤ k ↔ n < 58 ^ k := by
  rw [numeral_eq, List.length_reverse, List.length_map]
  exact Nat.digits_length_le_iff (by decide) n

/-- A number from `d` to `d + 1` times a power of 58 has the digit `d` in front of as many more as the power says. -/
theorem numeral_eq_cons {n d k : Nat} (hpos : 0 < d) (hd : d < 58) (hlow : d * 58 ^ k ≤ n)
    (hhigh : n < (d + 1) * 58 ^ k) : ∃ rest, numeral n = digit d :: rest ∧ rest.length = k := by
  induction k generalizing n with
  | zero =>
    obtain rfl : n = d := by omega
    refine ⟨[], ?_, rfl⟩
    rw [numeral_of_pos hpos, Nat.div_eq_of_lt hd, Nat.mod_eq_of_lt hd]
    rfl
  | succ k ih =>
    rw [Nat.pow_succ, ← Nat.mul_assoc] at hlow hhigh
    have hn : 0 < n := by
      have hpow : 0 < d * 58 ^ k := Nat.mul_pos hpos (Nat.pow_pos (by decide))
      omega
    obtain ⟨rest, hrest, hlength⟩ := ih (n := n / 58) (by omega) (by omega)
    refine ⟨rest ++ [digit (n % 58)], ?_, by simp [hlength]⟩
    rw [numeral_of_pos hn, hrest, List.cons_append]

theorem ofDigits_eq (ds : List Nat) : ofDigits ds = Nat.ofDigits 58 ds.reverse := by
  rw [ofDigits, Nat.ofDigits_eq_foldr, List.foldr_reverse]
  congr 1
  funext n d
  exact Nat.add_comm _ _

theorem ofDigits_zeros_append {zs : List Nat} (h : ∀ z ∈ zs, z = 0) (ds : List Nat) :
    ofDigits (zs ++ ds) = ofDigits ds := by
  induction zs with
  | nil => rfl
  | cons z zs ih =>
    rw [List.forall_mem_cons] at h
    rw [List.cons_append, h.1, ofDigits_eq, Nat.ofDigits_reverse_zero_cons, ← ofDigits_eq, ih h.2]

/-- The numeral of the number that digits spell is those digits, from the first that is not zero. -/
theorem numeral_ofDigits {ds : List Nat} (h : ∀ d ∈ ds, d < 58) :
    numeral (ofDigits ds) = (ds.dropWhile (· == 0)).map digit := by
  induction ds with
  | nil => rfl
  | cons d ds ih =>
    rw [List.dropWhile_cons]
    split
    · next hd =>
      rw [beq_iff_eq.1 hd, ofDigits_eq, Nat.ofDigits_reverse_zero_cons, ← ofDigits_eq]
      exact ih fun e he => h e (List.mem_cons_of_mem _ he)
    · next hd =>
      have hlast : ∀ hne, (d :: ds).reverse.getLast hne ≠ 0 := by simpa using hd
      rw [numeral_eq, ofDigits_eq, Nat.digits_ofDigits 58 (by decide) _ (fun e he => h e (List.mem_reverse.1 he)) hlast,
        List.map_reverse, List.reverse_reverse]

theorem takeWhile_reverse_digits (n : Nat) : (Nat.digits 58 n).reverse.takeWhile (· == 0) = [] := by
  rw [List.takeWhile_eq_nil_iff]
  intro hlength
  have hn : n ≠ 0 := by
    rintro rfl
    simp at hlength
  have hlast := Nat.getLast_digit_ne_zero 58 hn
  rw [List.getLast_eq_getElem] at hlast
  simpa using hlast

/-! ### Characters -/

theorem value?_digit : ∀ n < 58, value? (digit n) = some n := by decide +kernel

theorem value?_eq_some_iff {c : Char} {n : Nat} : value? c = some n ↔ n < 58 ∧ c = digit n := by
  constructor
  · intro h
    obtain ⟨hn, hc, -⟩ := List.findIdx?_eq_some_iff_getElem.1 h
    refine ⟨hn, ?_⟩
    rw [digit, List.getD_eq_getElem?_getD, List.getElem?_eq_getElem hn]
    exact (beq_iff_eq.1 hc).symm
  · rintro ⟨hn, rfl⟩
    exact value?_digit n hn

theorem mapM_value?_eq_some_iff {cs : List Char} {ds : List Nat} :
    cs.mapM value? = some ds ↔ (∀ d ∈ ds, d < 58) ∧ cs = ds.map digit := by
  induction cs generalizing ds with
  | nil =>
    rw [List.mapM_nil]
    cases ds with
    | nil => simp
    | cons d ds => simp
  | cons c cs ih =>
    simp only [List.mapM_cons, Option.bind_eq_bind, Option.bind_eq_some_iff, value?_eq_some_iff, ih, Option.pure_def,
      Option.some.injEq]
    constructor
    · rintro ⟨d, ⟨hd, rfl⟩, rest, ⟨hrest, rfl⟩, rfl⟩
      exact ⟨List.forall_mem_cons.2 ⟨hd, hrest⟩, rfl⟩
    · rintro ⟨hds, hcs⟩
      cases ds with
      | nil => cases hcs
      | cons d ds =>
        rw [List.forall_mem_cons] at hds
        rw [List.map_cons, List.cons.injEq] at hcs
        exact ⟨d, ⟨hds.1, hcs.1⟩, ds, ⟨hds.2, hcs.2⟩, rfl⟩

/-! ### Texts -/

/-- The values of the digits that bytes are written with. -/
def digits (bs : Bytes) : List Nat :=
  (bs.takeWhile (· == 0)).map (fun _ => 0) ++ (Nat.digits 58 (Bytes.toNat bs)).reverse

theorem lt_of_mem_digits {bs : Bytes} {d : Nat} (h : d ∈ digits bs) : d < 58 := by
  rcases List.mem_append.1 h with h | h
  · obtain ⟨-, -, rfl⟩ := List.mem_map.1 h
    decide
  · exact Nat.digits_lt_base (by decide) (List.mem_reverse.1 h)

theorem toList_encode (bs : Bytes) : (encode bs).toList = (digits bs).map digit := by
  rw [encode, String.toList_ofList, numeral_eq, digits, List.map_append, List.map_map, List.map_reverse]
  rfl

theorem map_takeWhile_beq {α β : Type} [BEq α] [LawfulBEq α] (z : α) (f : α → β) (xs : List α) :
    (xs.takeWhile (· == z)).map (fun _ => f z) = (xs.takeWhile (· == z)).map f := by
  refine List.map_congr_left fun x hx => ?_
  have hxz : (x == z) = true := List.mem_takeWhile_imp (p := (· == z)) hx
  rw [beq_iff_eq.1 hxz]

/-- What was written is read. -/
theorem decode?_encode (bs : Bytes) : decode? (encode bs) = some bs := by
  have hvalues : (encode bs).toList.mapM value? = some (digits bs) :=
    mapM_value?_eq_some_iff.2 ⟨fun _ => lt_of_mem_digits, toList_encode bs⟩
  have hzeros : (digits bs).takeWhile (· == 0) = (bs.takeWhile (· == 0)).map fun _ => 0 := by
    rw [digits, List.takeWhile_append_of_pos (by simp), takeWhile_reverse_digits, List.append_nil]
  have hnumber : ofDigits (digits bs) = Bytes.toNat bs := by
    rw [digits, ofDigits_zeros_append (by simp), ofDigits_eq, List.reverse_reverse, Nat.ofDigits_digits]
  have hkept : (bs.takeWhile (· == 0)).map (fun _ => (0 : UInt8)) = bs.takeWhile (· == 0) :=
    (map_takeWhile_beq 0 id bs).trans (List.map_id _)
  rw [decode?, hvalues]
  simp only [hzeros, hnumber, Bytes.minimal_toNat, List.map_map, Function.comp_def, hkept,
    List.takeWhile_append_dropWhile]

/-- What is read was written in this way. -/
theorem eq_encode_of_decode? {s : String} {bs : Bytes} (h : decode? s = some bs) : s = encode bs := by
  rw [decode?] at h
  split at h
  · cases h
  · next ds hds =>
    obtain ⟨hlt, hs⟩ := mapM_value?_eq_some_iff.1 hds
    cases h
    have hfront : ∀ z ∈ (ds.takeWhile (· == 0)).map (fun _ => (0 : UInt8)), z = 0 := by simp
    have hones : (ds.takeWhile (· == 0)).map (fun _ => '1') = (ds.takeWhile (· == 0)).map digit :=
      map_takeWhile_beq 0 digit ds
    apply String.toList_inj.1
    rw [encode, String.toList_ofList, List.takeWhile_append_of_pos (fun z hz => by simp [hfront z hz]),
      Bytes.takeWhile_minimal, List.append_nil, Bytes.toNat_zeros_append hfront, Bytes.toNat_minimal,
      numeral_ofDigits hlt, List.map_map]
    rw [Function.comp_def, hones, ← List.map_append, List.takeWhile_append_dropWhile, hs]

theorem decode?_eq_some_iff {s : String} {bs : Bytes} : decode? s = some bs ↔ s = encode bs :=
  ⟨eq_encode_of_decode?, fun h => h ▸ decode?_encode bs⟩

/-! ### Sizes -/

theorem toList_encode_zero_cons (bs : Bytes) : (encode (0 :: bs)).toList = '1' :: (encode bs).toList := by
  simp [encode]

theorem toNat_dropWhile (bs : Bytes) : Bytes.toNat (bs.dropWhile (· == 0)) = Bytes.toNat bs := by
  rw [← Bytes.minimal_toNat, Bytes.toNat_minimal]

theorem length_encode (bs : Bytes) :
    (encode bs).length = (bs.takeWhile (· == 0)).length + (numeral (Bytes.toNat (bs.dropWhile (· == 0)))).length := by
  rw [encode, String.length_ofList, List.length_append, List.length_map, toNat_dropWhile]

theorem length_takeWhile_add (bs : Bytes) :
    (bs.takeWhile (· == 0)).length + (bs.dropWhile (· == 0)).length = bs.length := by
  rw [← List.length_append, List.takeWhile_append_dropWhile]

/-- Two bytes take no more than three digits, and each zero in front takes one only. -/
theorem length_encode_le (bs : Bytes) :
    2 * (encode bs).length + (bs.takeWhile (· == 0)).length ≤ 3 * bs.length + 1 := by
  have hpow : ∀ m, 256 ^ m ≤ 58 ^ ((3 * m + 1) / 2) := by
    intro m
    induction m using Nat.twoStepInduction with
    | zero => decide
    | one => decide
    | more m ih _ =>
      have hexp : (3 * (m + 2) + 1) / 2 = (3 * m + 1) / 2 + 3 := by omega
      rw [hexp, Nat.pow_add, Nat.pow_add]
      exact Nat.mul_le_mul ih (by decide)
  have hsplit := length_takeWhile_add bs
  have hdigits := length_numeral_le_iff.2
    (Nat.lt_of_lt_of_le (Bytes.toNat_lt (bs.dropWhile (· == 0))) (hpow _))
  rw [length_encode]
  omega

/-- Five bytes, or more, behind the zeros in front take more digits than there are bytes. -/
theorem length_lt_length_encode {bs : Bytes} (h : 5 ≤ (bs.dropWhile (· == 0)).length) :
    bs.length < (encode bs).length := by
  have hpow : ∀ k, 4 ≤ k → 58 ^ (k + 1) ≤ 256 ^ k := by
    intro k hk
    induction k, hk using Nat.le_induction with
    | base => decide
    | succ k _ ih =>
      rw [Nat.pow_succ, Nat.pow_succ 256]
      exact Nat.mul_le_mul ih (by decide)
  have hsplit := length_takeWhile_add bs
  have hhead := List.head?_dropWhile_not (· == 0) bs
  rw [length_encode]
  cases hbytes : bs.dropWhile (· == 0) with
  | nil =>
    rw [hbytes] at h
    cases h
  | cons b rest =>
    rw [hbytes] at h hsplit hhead
    have hlow := Bytes.pow_le_toNat_cons (b := b) (by simpa using hhead) rest
    have hmore : ¬ (numeral (Bytes.toNat (b :: rest))).length ≤ rest.length + 1 := by
      rw [length_numeral_le_iff, Nat.not_lt]
      exact Nat.le_trans (hpow _ (Nat.le_of_succ_le_succ h)) hlow
    rw [List.length_cons] at hsplit
    omega

end Keyring.Base58

/-! ### Texts with a checksum -/

namespace Keyring.Base58Check

theorem decode?_encode (payload : Bytes) : decode? (encode payload) = some payload := by
  simp [decode?, encode, Base58.decode?_encode]

/-- A text is read with its checksum just when it is what the payload is written as. -/
theorem decode?_eq_some_iff {s : String} {payload : Bytes} : decode? s = some payload ↔ s = encode payload := by
  constructor
  · intro h
    rw [decode?] at h
    split at h
    · cases h
    · next bs hbs =>
      simp only [Option.ite_none_right_eq_some, Option.some.injEq] at h
      obtain ⟨⟨-, hcheck⟩, rfl⟩ := h
      rw [encode, ← hcheck, List.take_append_drop, Base58.eq_encode_of_decode? hbs]
  · rintro rfl
    exact decode?_encode payload

end Keyring.Base58Check
