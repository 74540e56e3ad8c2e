import Keyring.Proofs.Secp256k1.Power
import Mathlib.FieldTheory.Finite.Basic
import Mathlib.Tactic.NormNum.Prime

/-! The field prime and the group order are primes. A number is one if an element modulo any divisor of it has an order
above its root; the order is known from some of the primes that divide the number before it, and these are shown to be
primes in the same way. Modulo a prime, the inverse is one. -/
namespace Keyring.Secp256k1

/-- What the test asks of `m` with base `a`: the primes `qs` make up a part of `m - 1` that is larger than the root of
`m`, the power of `a` with exponent `m - 1` is one, and no divisor of `m` makes it one with an exponent that lacks one
of the primes. -/
structure Certified (a m : Nat) (qs : List Nat) : Prop where
  one_lt : 1 < m
  size : m < 2 ^ 256
  divides : (m - 1) % qs.prod = 0
  large : m < (qs.prod + 1) * (qs.prod + 1)
  power_eq_one : power m a (m - 1) = 1
  coprime : ∀ q ∈ qs, Nat.Coprime (power m a ((m - 1) / q) + (m - 1)) m

instance (a m : Nat) (qs : List Nat) : Decidable (Certified a m qs) :=
  decidable_of_iff (1 < m ∧ m < 2 ^ 256 ∧ (m - 1) % qs.prod = 0 ∧ m < (qs.prod + 1) * (qs.prod + 1) ∧
      power m a (m - 1) = 1 ∧ ∀ q ∈ qs, Nat.Coprime (power m a ((m - 1) / q) + (m - 1)) m)
    ⟨fun ⟨h₁, h₂, h₃, h₄, h₅, h₆⟩ => ⟨h₁, h₂, h₃, h₄, h₅, h₆⟩, fun ⟨h₁, h₂, h₃, h₄, h₅, h₆⟩ => ⟨h₁, h₂, h₃, h₄, h₅, h₆⟩⟩

/-- Modulo a prime that divides `m`, the power of `a` that the test looks at has the order `qs.prod`. -/
theorem Certified.orderOf_eq {a m r : Nat} {qs : List Nat} (h : Certified a m qs) (hqs : ∀ q ∈ qs, q.Prime)
    (hr : r.Prime) (hrm : r ∣ m) : orderOf ((a : ZMod r) ^ ((m - 1) / qs.prod)) = qs.prod := by
  have hone := h.one_lt
  have hsize := h.size
  have hpos : 0 < qs.prod := Nat.pos_of_ne_zero (List.prod_ne_zero fun h0 => (hqs 0 h0).ne_zero rfl)
  have hcast (e : Nat) (he : e < 2 ^ 256) : ((power m a e : Nat) : ZMod r) = (a : ZMod r) ^ e := by
    rw [power_eq hone he, ← Nat.cast_pow, ZMod.natCast_eq_natCast_iff']
    exact Nat.mod_mod_of_dvd _ hrm
  have hm1 : ((m - 1 : Nat) : ZMod r) = -1 := by
    rw [Nat.cast_sub (by omega), (ZMod.natCast_eq_zero_iff m r).2 hrm]
    simp
  refine orderOf_eq_of_pow_and_pow_div_prime hpos ?_ fun q hq hqdvd => ?_
  · rw [← pow_mul, Nat.div_mul_cancel (Nat.dvd_of_mod_eq_zero h.divides), ← hcast _ (by omega), h.power_eq_one, Nat.cast_one]
  · obtain ⟨q', hq', hdvd⟩ := (Prime.dvd_prod_iff hq.prime).1 hqdvd
    obtain rfl := (Nat.prime_dvd_prime_iff_eq hq (hqs q' hq')).1 hdvd
    have hexp : (m - 1) / qs.prod * (qs.prod / q) = (m - 1) / q := by
      obtain ⟨k, hk⟩ := Nat.dvd_of_mod_eq_zero h.divides
      obtain ⟨l, hl⟩ := hqdvd
      have hq0 := hq.pos
      rw [hk, Nat.mul_div_cancel_left _ hpos, hl, Nat.mul_div_cancel_left _ hq0, Nat.mul_assoc,
        Nat.mul_div_cancel_left _ hq0, Nat.mul_comm]
    intro hpow
    rw [← pow_mul, hexp] at hpow
    have hzero : ((power m a ((m - 1) / q) + (m - 1) : Nat) : ZMod r) = 0 := by
      rw [Nat.cast_add, hcast _ (Nat.lt_of_le_of_lt (Nat.div_le_self _ _) (by omega)), hpow, hm1]
      simp
    have hgcd := Nat.dvd_gcd ((ZMod.natCast_eq_zero_iff _ r).1 hzero) hrm
    rw [h.coprime q hq'] at hgcd
    exact hr.one_lt.ne' (Nat.dvd_one.1 hgcd)

theorem Certified.prime {a m : Nat} {qs : List Nat} (h : Certified a m qs) (hqs : ∀ q ∈ qs, q.Prime) : m.Prime := by
  have hone := h.one_lt
  by_contra hm
  -- the least divisor exceeds the order of an element modulo it, and so the root of `m`
  have hr := Nat.minFac_prime (n := m) (by omega)
  have hlt : qs.prod < m.minFac := by
    have : Fact m.minFac.Prime := ⟨hr⟩
    have horder := h.orderOf_eq hqs hr (Nat.minFac_dvd m)
    have hne : (a : ZMod m.minFac) ^ ((m - 1) / qs.prod) ≠ 0 := by
      intro h0
      rw [h0, orderOf_zero] at horder
      exact List.prod_ne_zero (fun h0 => (hqs 0 h0).ne_zero rfl) horder.symm
    have hdvd := ZMod.orderOf_dvd_card_sub_one hne
    rw [horder] at hdvd
    have := Nat.le_of_dvd (Nat.sub_pos_of_lt hr.one_lt) hdvd
    have := hr.one_lt
    omega
  have hsquare := Nat.minFac_sq_le_self (by omega) hm
  have hlarge := h.large
  have := Nat.mul_le_mul hlt hlt
  rw [Nat.pow_two] at hsquare
  exact absurd hlarge (Nat.not_lt.2 (Nat.le_trans this hsquare))

/-! ### Certificates -/

/-- The certificates on the way to the group order. -/
theorem certified_order :
    Certified 2 297159362677 [1627771] ∧ Certified 2 545358713 [28181]
    ∧ Certified 2 29047611873442575647497758179 [297159362677, 545358713]
    ∧ Certified 2 44706919 [9349] ∧ Certified 2 174723607534414371449 [44706919, 120233]
    ∧ Certified 2 341948486974166000522343609283189 [29047611873442575647497758179]
    ∧ Certified 2 order [341948486974166000522343609283189, 174723607534414371449] := by
  decide +kernel

theorem order_isPrime : order.Prime := by
  obtain ⟨h₁, h₂, h₃, h₄, h₅, h₆, h⟩ := certified_order
  have hleft : Nat.Prime 29047611873442575647497758179 :=
    h₃.prime (by simp [h₁.prime (by norm_num), h₂.prime (by norm_num)])
  have hright : Nat.Prime 174723607534414371449 := h₅.prime (by simp [h₄.prime (by norm_num)]; norm_num)
  exact h.prime (by simp [h₆.prime (by simp [hleft]), hright])

/-- The certificates on the way to the field prime. -/
theorem certified_prime :
    Certified 2 107590001 [53, 29, 7] ∧ Certified 2 7240687 [1206781]
    ∧ Certified 2 255515944373312847190720520512484175977 [107590001, 7240687, 96557]
    ∧ Certified 2 205115282021455665897114700593932402728804164701536103180137503955397371
      [255515944373312847190720520512484175977]
    ∧ Certified 2 prime [205115282021455665897114700593932402728804164701536103180137503955397371] := by
  decide +kernel

theorem prime_isPrime : prime.Prime := by
  obtain ⟨h₁, h₂, h₃, h₄, h⟩ := certified_prime
  have hpart : Nat.Prime 255515944373312847190720520512484175977 :=
    h₃.prime (by simp [h₁.prime (by norm_num), h₂.prime (by norm_num)]; norm_num)
  exact h.prime (by simp [h₄.prime (by simp [hpart])])

/-! ### Inverses -/

theorem cast_inverse {m : Nat} [Fact m.Prime] (hm : 2 < m) (hsize : m < 2 ^ 256) (a : Nat) :
    (inverse m a : ZMod m) = (a : ZMod m)⁻¹ := by
  rw [inverse, cast_power (by omega) (by omega)]
  by_cases h : (a : ZMod m) = 0
  · rw [h, inv_zero, zero_pow (by omega)]
  · have hexponent : m - 2 + 1 = m - 1 := by omega
    refine eq_inv_of_mul_eq_one_left ?_
    rw [← pow_succ, hexponent]
    exact ZMod.pow_card_sub_one_eq_one h

instance : Fact prime.Prime := ⟨prime_isPrime⟩

instance : Fact order.Prime := ⟨order_isPrime⟩

end Keyring.Secp256k1
