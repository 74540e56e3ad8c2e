import Mathlib.Data.List.Induction
import Mathlib.Data.List.TakeWhile
import Keyring.Bytes

/-! Byte strings and the numbers they spell. The bytes of one width and the numbers below its power of 256 correspond
to each other. Written without leading zeros, a number takes at most `k` bytes if and only if it is below `256 ^ k`,
and these are the bytes of any of its spellings from the first that is not zero. -/
namespace Keyring.Bytes

theorem lt_pow_width (n : Nat) : n < 256 ^ width n := by
  by_cases h : n = 0
  · simp [h, width]
  · rw [width, if_neg h, show 256 = 2 ^ 8 from rfl, ← Nat.pow_mul, ← Nat.log2_lt h]
    omega

@[simp] theorem toNat_minimal (n : Nat) : toNat (minimal n) = n := by
  rw [minimal, toNat_ofNat, Nat.mod_eq_of_lt (lt_pow_width n)]

theorem length_minimal_le {n k : Nat} (h : n < 256 ^ k) : (minimal n).length ≤ k := by
  rw [minimal, length_ofNat, width]
  split
  · omega
  · next hn =>
    rw [show 256 = 2 ^ 8 from rfl, ← Nat.pow_mul, ← Nat.log2_lt hn] at h
    omega

theorem length_minimal_pos {n : Nat} (h : n ≠ 0) : 0 < (minimal n).length := by
  simp [minimal, width, h]

/-! ### Numbers of given bytes -/

theorem toNat_append (bs cs : Bytes) : toNat (bs ++ cs) = toNat bs * 256 ^ cs.length + toNat cs := by
  induction cs using List.reverseRecOn with
  | nil => simp [toNat]
  | append_singleton cs c ih =>
    rw [← List.append_assoc, toNat_append_singleton, toNat_append_singleton, ih, List.length_append,
      List.length_singleton, Nat.pow_succ, Nat.mul_add, Nat.add_assoc]
    congr 1
    rw [Nat.mul_comm 256, Nat.mul_assoc]

theorem toNat_cons (b : UInt8) (bs : Bytes) : toNat (b :: bs) = b.toNat * 256 ^ bs.length + toNat bs := by
  have := toNat_append [b] bs
  simpa [toNat] using this

@[simp] theorem toNat_zero_cons (bs : Bytes) : toNat (0 :: bs) = toNat bs := by
  rw [toNat_cons, UInt8.toNat_zero, Nat.zero_mul, Nat.zero_add]

theorem toNat_zeros_append {zs : Bytes} (h : ∀ z ∈ zs, z = 0) (bs : Bytes) : toNat (zs ++ bs) = toNat bs := by
  induction zs with
  | nil => rfl
  | cons z zs ih =>
    rw [List.forall_mem_cons] at h
    rw [List.cons_append, h.1, toNat_zero_cons, ih h.2]

theorem toNat_lt (bs : Bytes) : toNat bs < 256 ^ bs.length := by
  induction bs with
  | nil => decide
  | cons b bs ih =>
    have hb : b.toNat * 256 ^ bs.length ≤ 255 * 256 ^ bs.length :=
      Nat.mul_le_mul_right _ (Nat.le_of_lt_succ b.toNat_lt)
    rw [toNat_cons, List.length_cons, Nat.pow_succ]
    omega

/-- A byte in front that is not zero makes the number as large as its place. -/
theorem pow_le_toNat_cons {b : UInt8} (hb : b ≠ 0) (bs : Bytes) : 256 ^ bs.length ≤ toNat (b :: bs) := by
  have hpos : 0 < b.toNat := Nat.pos_of_ne_zero fun h => hb (UInt8.toNat_inj.1 h)
  rw [toNat_cons]
  exact Nat.le_add_right_of_le (Nat.le_mul_of_pos_left _ hpos)

/-- Bytes are what their number is written as at their own width. -/
theorem ofNat_toNat {bs : Bytes} {w : Nat} (h : bs.length = w) : ofNat w (toNat bs) = bs := by
  subst h
  induction bs using List.reverseRecOn with
  | nil => rfl
  | append_singleton bs b ih =>
    have hb := b.toNat_lt
    have hfront : (256 * toNat bs + b.toNat) / 256 = toNat bs := by omega
    have hlast : UInt8.ofNat (256 * toNat bs + b.toNat) = b := by
      rw [← UInt8.toNat_inj, UInt8.toNat_ofNat']
      omega
    rw [List.length_append, List.length_singleton, ofNat, toNat_append_singleton, hfront, hlast, ih]

/-- The minimal bytes of a number are those of any spelling of it without the zeros in front. -/
theorem minimal_toNat (bs : Bytes) : minimal (toNat bs) = bs.dropWhile (· == 0) := by
  induction bs with
  | nil => rfl
  | cons b bs ih =>
    rw [List.dropWhile_cons]
    split
    · next hb => rw [beq_iff_eq.1 hb, toNat_zero_cons, ih]
    · next hb =>
      have hle := length_minimal_le (toNat_lt (b :: bs))
      have hge : bs.length < (minimal (toNat (b :: bs))).length := by
        refine Nat.lt_of_not_le fun hshort => ?_
        have hbig := pow_le_toNat_cons (b := b) (by simpa using hb) bs
        have hsmall := toNat_lt (minimal (toNat (b :: bs)))
        have hpow := Nat.pow_le_pow_right (show 0 < 256 by decide) hshort
        rw [toNat_minimal] at hsmall
        omega
      have hwidth : width (toNat (b :: bs)) = (b :: bs).length := by
        rw [minimal, length_ofNat] at hle hge
        exact Nat.le_antisymm hle hge
      rw [minimal, hwidth, ofNat_toNat rfl]

theorem takeWhile_minimal (n : Nat) : (minimal n).takeWhile (· == 0) = [] := by
  have hdrop := minimal_toNat (minimal n)
  rw [toNat_minimal] at hdrop
  exact List.takeWhile_eq_nil_iff.2 (List.dropWhile_eq_self_iff.1 hdrop.symm)

end Keyring.Bytes
