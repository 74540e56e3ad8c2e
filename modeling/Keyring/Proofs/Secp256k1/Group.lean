import Keyring.Proofs.Secp256k1.Primality
import Keyring.Secp256k1.Point
import Mathlib.AlgebraicGeometry.EllipticCurve.Affine.Point
import Mathlib.Tactic.FieldSimp
import Mathlib.Tactic.LinearCombination

/-! The points of the curve as a commutative group. Every sum, negative and multiple of points that is worked out in
coordinates is the one of the group, whatever points are added. -/
namespace Keyring.Secp256k1

open WeierstrassCurve

abbrev Coordinate := ZMod prime

/-- The curve `y ^ 2 = x ^ 3 + 7`. -/
def curve : Affine Coordinate := ⟨0, 0, 0, 0, 7⟩

/-! ### Coordinates -/

namespace Field

theorem prime_pos : 0 < prime := by decide

theorem add_lt (a b : Nat) : add a b < prime := Nat.mod_lt _ prime_pos

theorem mul_lt (a b : Nat) : mul a b < prime := Nat.mod_lt _ prime_pos

theorem sub_lt (a b : Nat) : sub a b < prime := Nat.mod_lt _ prime_pos

theorem cast_mul (a b : Nat) : ((mul a b : Nat) : Coordinate) = a * b := by
  rw [mul, ZMod.natCast_mod, Nat.cast_mul]

theorem cast_add (a b : Nat) : ((add a b : Nat) : Coordinate) = a + b := by
  rw [add, ZMod.natCast_mod, Nat.cast_add]

theorem cast_sub (a : Nat) {b : Nat} (hb : b < prime) : ((sub a b : Nat) : Coordinate) = a - b := by
  rw [sub, ZMod.natCast_mod, Nat.cast_add, Nat.cast_sub (Nat.le_of_lt hb), ZMod.natCast_self]
  ring

theorem sub_eq_zero_iff {a b : Nat} (hb : b < prime) : sub a b = 0 ↔ (a : Coordinate) = b := by
  rw [← sub_eq_zero (a := (a : Coordinate)), ← cast_sub a hb, ZMod.natCast_eq_zero_iff]
  exact ⟨fun h => h ▸ Nat.dvd_zero _, fun h => Nat.eq_zero_of_dvd_of_lt h (sub_lt a b)⟩

theorem cast_eq_zero_iff {a : Nat} (ha : a < prime) : (a : Coordinate) = 0 ↔ a = 0 := by
  rw [ZMod.natCast_eq_zero_iff]
  exact ⟨fun h => Nat.eq_zero_of_dvd_of_lt h ha, fun h => h ▸ Nat.dvd_zero _⟩

theorem cast_inj {a b : Nat} (ha : a < prime) (hb : b < prime) : (a : Coordinate) = b ↔ a = b := by
  rw [ZMod.natCast_eq_natCast_iff', Nat.mod_eq_of_lt ha, Nat.mod_eq_of_lt hb]

theorem two_ne_zero : (2 : Coordinate) ≠ 0 := by
  have h := (cast_eq_zero_iff (a := 2) (by decide)).not.2 (by decide)
  simpa using h

end Field

/-! ### Jacobian coordinates -/

namespace Jacobian

structure Reduced (q : Jacobian) : Prop where
  x : q.x < prime
  y : q.y < prime
  z : q.z < prime

/-- The coordinates are those of a point of the group. -/
def Denotes (q : Jacobian) : curve.Point → Prop
  | .zero => (q.z : Coordinate) = 0
  | .some x y _ => (q.z : Coordinate) ≠ 0 ∧ (q.x : Coordinate) = x * q.z ^ 2 ∧ (q.y : Coordinate) = y * q.z ^ 3

end Jacobian

namespace Point

/-- The point has the coordinates of an element of the group, in reduced form. -/
inductive Denotes : Point → curve.Point → Prop where
  | infinity : Denotes infinity 0
  | affine {x y : Nat} (hx : x < prime) (hy : y < prime) (hxy : curve.Nonsingular (x : Coordinate) (y : Coordinate)) :
    Denotes (affine x y) (.some _ _ hxy)

end Point

namespace Jacobian

theorem reduced_infinity : infinity.Reduced := ⟨by decide, by decide, by decide⟩

theorem denotes_infinity : infinity.Denotes 0 := by
  show ((0 : Nat) : Coordinate) = 0
  simp

theorem Reduced.double {q : Jacobian} : q.double.Reduced := by
  rw [Jacobian.double]
  split
  · exact reduced_infinity
  · exact ⟨Field.sub_lt _ _, Field.sub_lt _ _, Field.mul_lt _ _⟩

theorem Denotes.double {q : Jacobian} {P : curve.Point} (hq : q.Reduced) (h : q.Denotes P) :
    q.double.Denotes (P + P) := by
  rcases P with _ | ⟨x, y, hxy⟩
  · have hz : q.z = 0 := (Field.cast_eq_zero_iff hq.z).1 h
    rw [Jacobian.double, if_pos (.inl hz)]
    exact denotes_infinity
  obtain ⟨hz, hx, hy⟩ := h
  have hnegY : curve.negY x y = -y := by simp [curve]
  have hz0 : q.z ≠ 0 := fun h0 => hz (by rw [h0, Nat.cast_zero])
  have hyzero : q.y = 0 ↔ y = 0 := by
    rw [← Field.cast_eq_zero_iff hq.y, hy, mul_eq_zero, or_iff_left (pow_ne_zero 3 hz)]
  by_cases hy0 : y = 0
  · -- the tangent is vertical
    rw [Jacobian.double, if_pos (.inr (hyzero.2 hy0)), Affine.Point.add_self_of_Y_eq (by rw [hnegY, hy0, neg_zero])]
    exact denotes_infinity
  have h2 := Field.two_ne_zero
  have hne : y ≠ curve.negY x y := by
    rw [hnegY]
    intro heq
    exact mul_ne_zero h2 hy0 (by linear_combination heq)
  rw [Jacobian.double, if_neg (by simp [hz0, hyzero, hy0]), Affine.Point.add_self_of_Y_ne hne]
  have hslope : curve.slope x x y y = 3 * x ^ 2 / (2 * y) := by
    rw [Affine.slope_of_Y_ne rfl hne, hnegY]
    simp only [curve]
    ring
  simp only [Denotes, Affine.addX, Affine.addY, Affine.negAddY, Affine.negY, hslope, Field.cast_mul, Field.cast_sub,
    Field.mul_lt, Field.sub_lt, hx, hy]
  simp only [curve]
  push_cast
  refine ⟨?_, ?_, ?_⟩
  · exact mul_ne_zero h2 (mul_ne_zero (mul_ne_zero hy0 (pow_ne_zero 3 hz)) hz)
  · field_simp
    ring
  · field_simp
    ring

theorem Reduced.addAffine {q : Jacobian} {x y : Nat} (hx : x < prime) (hy : y < prime) :
    (q.addAffine x y).Reduced := by
  rw [Jacobian.addAffine]
  split
  · exact ⟨hx, hy, show 1 < prime by decide⟩
  · dsimp only
    split
    · split
      · exact Reduced.double
      · exact reduced_infinity
    · exact ⟨Field.sub_lt _ _, Field.sub_lt _ _, Field.mul_lt _ _⟩

/-- Which of the formulas for a sum applies is decided by the differences of the coordinates, cleared of their
denominators. -/
theorem Denotes.addAffine {q : Jacobian} {P : curve.Point} {x y : Nat} (hq : q.Reduced) (h : q.Denotes P)
    (hxy : curve.Nonsingular (x : Coordinate) (y : Coordinate)) : (q.addAffine x y).Denotes (P + .some _ _ hxy) := by
  rcases P with _ | ⟨x₁, y₁, h₁⟩
  · have hz : q.z = 0 := (Field.cast_eq_zero_iff hq.z).1 h
    rw [Jacobian.addAffine, if_pos hz, ← Affine.Point.zero_def, zero_add]
    simp [Denotes]
  have hdenotes := h
  obtain ⟨hz, hx, hy⟩ := h
  have hz0 : q.z ≠ 0 := fun h0 => hz (by rw [h0, Nat.cast_zero])
  have hdx : Field.sub (Field.mul x (Field.mul q.z q.z)) q.x = 0 ↔ (x : Coordinate) = x₁ := by
    rw [Field.sub_eq_zero_iff hq.x, Field.cast_mul, Field.cast_mul, hx, ← pow_two, mul_left_inj' (pow_ne_zero 2 hz)]
  have hdy : Field.sub (Field.mul y (Field.mul (Field.mul q.z q.z) q.z)) q.y = 0 ↔ (y : Coordinate) = y₁ := by
    rw [Field.sub_eq_zero_iff hq.y, Field.cast_mul, Field.cast_mul, Field.cast_mul, hy, ← pow_two, ← pow_succ,
      mul_left_inj' (pow_ne_zero 3 hz)]
  rw [Jacobian.addAffine, if_neg hz0]
  dsimp only
  by_cases hxeq : (x : Coordinate) = x₁
  · subst hxeq
    rw [if_pos (hdx.2 rfl)]
    by_cases hyeq : (y : Coordinate) = y₁
    · subst hyeq
      rw [if_pos (hdy.2 rfl)]
      exact hdenotes.double hq
    · -- equal in `x` alone, the points are opposite
      have hopposite : y₁ = curve.negY (x : Coordinate) y :=
        (Affine.Y_eq_of_X_eq h₁.1 hxy.1 rfl).resolve_left fun h => hyeq h.symm
      rw [if_neg (mt hdy.1 hyeq), Affine.Point.add_of_Y_eq rfl hopposite]
      exact denotes_infinity
  · have hsub : (x : Coordinate) - x₁ ≠ 0 := sub_ne_zero.2 hxeq
    have hsub' : x₁ - (x : Coordinate) ≠ 0 := sub_ne_zero.2 (Ne.symm hxeq)
    rw [if_neg (mt hdx.1 hxeq), Affine.Point.add_of_X_ne (Ne.symm hxeq)]
    simp only [Denotes, Affine.addX, Affine.addY, Affine.negAddY, Affine.negY, Affine.slope_of_X_ne (Ne.symm hxeq),
      Field.cast_mul, Field.cast_sub, Field.mul_lt, Field.sub_lt, hq.x, hq.y, hx, hy]
    simp only [curve]
    push_cast
    have hscaled : (x : Coordinate) * (q.z * q.z) - x₁ * q.z ^ 2 = (x - x₁) * q.z ^ 2 := by ring
    rw [hscaled]
    refine ⟨?_, ?_, ?_⟩
    · exact mul_ne_zero hz (mul_ne_zero hsub (pow_ne_zero 2 hz))
    · field_simp
      ring
    · field_simp
      ring

theorem Reduced.add {q : Jacobian} {p : Point} {P : curve.Point} (hq : q.Reduced) (hp : p.Denotes P) :
    (q.add p).Reduced := by
  cases hp with
  | infinity => exact hq
  | affine hx hy => exact .addAffine hx hy

theorem Denotes.add {q : Jacobian} {p : Point} {P Q : curve.Point} (hq : q.Reduced) (h : q.Denotes Q)
    (hp : p.Denotes P) : (q.add p).Denotes (Q + P) := by
  cases hp with
  | infinity => rwa [add_zero]
  | affine _ _ hxy => exact h.addAffine hq hxy

theorem reduced_ofPoint {p : Point} {P : curve.Point} (hp : p.Denotes P) : (ofPoint p).Reduced := by
  cases hp with
  | infinity => exact reduced_infinity
  | affine hx hy => exact ⟨hx, hy, show 1 < prime by decide⟩

theorem denotes_ofPoint {p : Point} {P : curve.Point} (hp : p.Denotes P) : (ofPoint p).Denotes P := by
  cases hp with
  | infinity => exact denotes_infinity
  | affine => simp [Denotes, ofPoint]

theorem Denotes.toPoint {q : Jacobian} {P : curve.Point} (hq : q.Reduced) (h : q.Denotes P) : q.toPoint.Denotes P := by
  rcases P with _ | ⟨x, y, hxy⟩
  · have hz : q.z = 0 := (Field.cast_eq_zero_iff hq.z).1 h
    rw [Jacobian.toPoint, if_pos hz]
    exact .infinity
  · obtain ⟨hz, hx, hy⟩ := h
    have hz0 : q.z ≠ 0 := fun h0 => hz (by rw [h0, Nat.cast_zero])
    rw [Jacobian.toPoint, if_neg hz0]
    generalize hi : inverse prime q.z = i
    have hicast : (i : Coordinate) = (q.z : Coordinate)⁻¹ := by rw [← hi, cast_inverse (by decide) (by decide)]
    have hxdiv : ((Field.mul q.x (Field.mul i i) : Nat) : Coordinate) = x := by
      rw [Field.cast_mul, Field.cast_mul, hicast, hx]
      field_simp
    have hydiv : ((Field.mul q.y (Field.mul (Field.mul i i) i) : Nat) : Coordinate) = y := by
      rw [Field.cast_mul, Field.cast_mul, Field.cast_mul, hicast, hy]
      field_simp
    have hquotient : curve.Nonsingular ((Field.mul q.x (Field.mul i i) : Nat) : Coordinate)
        (Field.mul q.y (Field.mul (Field.mul i i) i) : Nat) := by
      rwa [hxdiv, hydiv]
    have hdenotes := Point.Denotes.affine (Field.mul_lt _ _) (Field.mul_lt _ _) hquotient
    simp only [hxdiv, hydiv] at hdenotes
    exact hdenotes

end Jacobian

/-! ### Points -/

namespace Point

theorem Denotes.unique {p p' : Point} {P : curve.Point} (h : p.Denotes P) (h' : p'.Denotes P) : p = p' := by
  generalize hQ : P = Q at h'
  cases h with
  | infinity =>
    cases h' with
    | infinity => rfl
    | affine _ _ hxy => exact absurd hQ.symm (Affine.Point.some_ne_zero hxy)
  | affine hx hy hxy =>
    cases h' with
    | infinity => exact absurd hQ (Affine.Point.some_ne_zero hxy)
    | affine hx' hy' hxy' =>
      rw [Affine.Point.some.injEq, Field.cast_inj hx hx', Field.cast_inj hy hy'] at hQ
      rw [hQ.1, hQ.2]

theorem Denotes.unique_element {p : Point} {P P' : curve.Point} (h : p.Denotes P) (h' : p.Denotes P') : P = P' := by
  cases h with
  | infinity =>
    cases h'
    rfl
  | affine =>
    cases h'
    rfl

theorem nonsingular_iff {x y : Coordinate} : curve.Nonsingular x y ↔ y * y = x * (x * x) + 7 := by
  have hdisc : curve.Δ ≠ 0 := by
    -- it is -21168, which the field prime does not divide
    have h := (Field.cast_eq_zero_iff (a := 21168) (by decide)).not.2 (by decide)
    simp only [curve, WeierstrassCurve.Δ, b₂, b₄, b₆, b₈]
    intro h0
    exact h (by push_cast; linear_combination -h0)
  rw [← Affine.equation_iff_nonsingular_of_Δ_ne_zero hdisc, Affine.equation_iff]
  simp only [curve]
  constructor <;> intro h <;> linear_combination h

/-- The points on the curve are those that stand for an element of the group. -/
theorem onCurve_iff {p : Point} : p.OnCurve ↔ ∃ P, p.Denotes P := by
  cases p with
  | infinity => exact ⟨fun _ => ⟨0, .infinity⟩, fun _ => trivial⟩
  | affine x y =>
    have hequation : Field.mul y y = Field.add (Field.mul x (Field.mul x x)) 7 ↔
        curve.Nonsingular (x : Coordinate) (y : Coordinate) := by
      rw [nonsingular_iff, ← Field.cast_inj (Field.mul_lt _ _) (Field.add_lt _ _), Field.cast_mul, Field.cast_add,
        Field.cast_mul, Field.cast_mul]
      rfl
    rw [OnCurve, hequation]
    constructor
    · rintro ⟨hx, hy, hxy⟩
      exact ⟨_, .affine hx hy hxy⟩
    · rintro ⟨P, h⟩
      cases h with
      | affine hx hy hxy => exact ⟨hx, hy, hxy⟩

theorem Denotes.add {p p' : Point} {P P' : curve.Point} (h : p.Denotes P) (h' : p'.Denotes P') :
    (p.add p').Denotes (P + P') :=
  ((Jacobian.denotes_ofPoint h).add (Jacobian.reduced_ofPoint h) h').toPoint ((Jacobian.reduced_ofPoint h).add h')

theorem Denotes.neg {p : Point} {P : curve.Point} (h : p.Denotes P) : p.neg.Denotes (-P) := by
  cases h with
  | infinity => exact .infinity
  | @affine x y hx hy hxy =>
    have hnegY : ((Field.sub 0 y : Nat) : Coordinate) = curve.negY (x : Coordinate) y := by
      rw [Field.cast_sub 0 hy]
      simp [curve]
    have hdenotes := Denotes.affine hx (Field.sub_lt 0 y) (by rw [hnegY]; exact (Affine.nonsingular_neg _ _).2 hxy)
    simp only [hnegY] at hdenotes
    exact hdenotes

/-- A multiple is formed by doubling and adding along the bits of the scalar. -/
theorem Denotes.mul {p : Point} {P : curve.Point} (h : p.Denotes P) {k : Nat} (hk : k < 2 ^ 256) :
    (mul k p).Denotes (k • P) := by
  have hstep (j : Nat) (q : Jacobian) (bit : Bool) (hq : q.Reduced ∧ q.Denotes (j • P)) :
      (if bit then q.double.add p else q.double).Reduced
        ∧ (if bit then q.double.add p else q.double).Denotes ((2 * j + bit.toNat) • P) := by
    have hdouble : q.double.Denotes ((2 * j) • P) := by
      rw [Nat.two_mul, add_nsmul]
      exact hq.2.double hq.1
    cases bit with
    | false => exact ⟨.double, hdouble⟩
    | true =>
      refine ⟨Jacobian.Reduced.double.add h, ?_⟩
      rw [Bool.toNat_true, add_nsmul, one_nsmul]
      exact hdouble.add .double h
  have hrun := foldl_bits (fun j q => q.Reduced ∧ q.Denotes (j • P)) hstep k 256 0 Jacobian.infinity
    ⟨Jacobian.reduced_infinity, by rw [zero_nsmul]; exact Jacobian.denotes_infinity⟩
  rw [Nat.zero_mul, Nat.zero_add, Nat.mod_eq_of_lt hk] at hrun
  exact hrun.2.toPoint hrun.1

end Point

/-! ### The generator -/

theorem onCurve_generator : generator.OnCurve := ⟨by decide, by decide, by decide +kernel⟩

/-- The generator as an element of the group. -/
noncomputable def base : curve.Point := (Point.onCurve_iff.1 onCurve_generator).choose

theorem denotes_base : generator.Denotes base := (Point.onCurve_iff.1 onCurve_generator).choose_spec

theorem mul_order_generator : Point.mul order generator = .infinity := by decide +kernel

theorem base_ne_zero : base ≠ 0 := by
  intro h
  have hdenotes := denotes_base
  rw [h] at hdenotes
  exact absurd (hdenotes.unique .infinity) (by decide)

theorem addOrderOf_base : addOrderOf base = order := by
  refine addOrderOf_eq_prime ?_ base_ne_zero
  have h := denotes_base.mul (show order < 2 ^ 256 by decide)
  rw [mul_order_generator] at h
  exact h.unique_element .infinity

/-- The multiples of the generator, by scalars modulo the group order. -/
noncomputable def multiple : ZMod order →+ curve.Point :=
  ZMod.lift order ⟨zmultiplesHom curve.Point base, by
    rw [zmultiplesHom_apply, natCast_zsmul, ← addOrderOf_base, addOrderOf_nsmul_eq_zero]⟩

theorem lt_pow_of_lt_order {k : Nat} (h : k < order) : k < 2 ^ 256 := Nat.lt_trans h (by decide)

theorem multiple_natCast (k : Nat) : multiple k = k • base := by
  rw [← Int.cast_natCast, multiple, ZMod.lift_coe]
  exact natCast_zsmul base k

theorem cast_order_ne_zero {a : Nat} (hpos : 0 < a) (ha : a < order) : (a : ZMod order) ≠ 0 := by
  rw [ne_eq, ZMod.natCast_eq_zero_iff]
  exact fun h => absurd (Nat.le_of_dvd hpos h) (Nat.not_le.2 ha)

theorem multiple_injective : Function.Injective multiple := by
  rw [injective_iff_map_eq_zero]
  intro c hc
  obtain ⟨k, rfl⟩ := ZMod.natCast_zmod_surjective c
  rw [multiple_natCast, ← addOrderOf_dvd_iff_nsmul_eq_zero, addOrderOf_base] at hc
  exact (ZMod.natCast_eq_zero_iff k order).2 hc

theorem denotes_mul_generator {k : Nat} (hk : k < 2 ^ 256) : (Point.mul k generator).Denotes (multiple k) := by
  rw [multiple_natCast]
  exact denotes_base.mul hk

/-- A multiple of a multiple is one by the product of the scalars. -/
theorem Point.Denotes.mul_multiple {p : Point} {c : ZMod order} (h : p.Denotes (multiple c)) {k : Nat}
    (hk : k < 2 ^ 256) : (Point.mul k p).Denotes (multiple (k * c)) := by
  rw [← nsmul_eq_mul, map_nsmul]
  exact h.mul hk

end Keyring.Secp256k1
