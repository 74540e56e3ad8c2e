import Keyring.Bytes
import Keyring.Secp256k1.Field
import Mathlib.Data.ZMod.Basic
import Mathlib.Tactic.Ring

/-! What is computed bit by bit. Reading the bits of a number from the highest, a step that doubles what was read and
adds the next bit comes to the number itself. Powers by squaring are the powers. -/
namespace Keyring.Secp256k1

theorem testBit_eq (n w : Nat) : n % 2 ^ (w + 1) = 2 ^ w * (n.testBit w).toNat + n % 2 ^ w := by
  rw [Nat.testBit_eq_decide_div_mod_eq, Nat.pow_succ, Nat.mod_mul, Nat.add_comm]
  rcases Nat.mod_two_eq_zero_or_one (n / 2 ^ w) with h | h <;> simp [h]

/-- If a step takes what stands for `j` to what stands for `2 * j` and the bit, then all `w` bits of `n` take it to
what stands for `j * 2 ^ w` and `n`. -/
theorem foldl_bits {α : Type} (Stands : Nat → α → Prop) {step : α → Bool → α}
    (hstep : ∀ j a b, Stands j a → Stands (2 * j + b.toNat) (step a b)) (n : Nat) :
    ∀ (w j : Nat) (a : α), Stands j a → Stands (j * 2 ^ w + n % 2 ^ w) ((bits w n).foldl step a)
  | 0, j, a, h => by simpa [bits, Nat.mod_one] using h
  | w + 1, j, a, h => by
    have ih := foldl_bits Stands hstep n w _ _ (hstep j a (n.testBit w) h)
    have hsum : j * 2 ^ (w + 1) + n % 2 ^ (w + 1) = (2 * j + (n.testBit w).toNat) * 2 ^ w + n % 2 ^ w := by
      rw [testBit_eq, Nat.pow_succ, Nat.add_mul]
      ring
    rw [bits, List.foldl_cons, hsum]
    exact ih

theorem power_eq {m b e : Nat} (hm : 1 < m) (he : e < 2 ^ 256) : power m b e = b ^ e % m := by
  have hstep (j a : Nat) (bit : Bool) (h : a = b ^ j % m) :
      (if bit then a * a % m * b % m else a * a % m) = b ^ (2 * j + bit.toNat) % m := by
    have hsquare : a * a % m = b ^ (2 * j) % m := by rw [h, ← Nat.mul_mod, Nat.two_mul, Nat.pow_add]
    cases bit with
    | false => simpa using hsquare
    | true => simp [hsquare, Nat.pow_succ]
  have h := foldl_bits (fun j a => a = b ^ j % m) hstep e 256 0 1 (by simp [Nat.mod_eq_of_lt hm])
  rwa [Nat.zero_mul, Nat.zero_add, Nat.mod_eq_of_lt he] at h

theorem power_lt {m b e : Nat} (hm : 1 < m) (he : e < 2 ^ 256) : power m b e < m := by
  rw [power_eq hm he]
  exact Nat.mod_lt _ (Nat.zero_lt_of_lt hm)

theorem cast_power {m b e : Nat} (hm : 1 < m) (he : e < 2 ^ 256) : (power m b e : ZMod m) = (b : ZMod m) ^ e := by
  rw [power_eq hm he, ZMod.natCast_mod, Nat.cast_pow]

end Keyring.Secp256k1
