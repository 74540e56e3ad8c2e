import Keyring.Proofs.Secp256k1.Group
import Keyring.Proofs.Secp256k1.Signature

/-! Signatures and the keys they give back. A signature that was made with a nonce recovers the public key of its
maker from the digest, whether or not `s` was replaced by its negative, and the digest from the key. -/
namespace Keyring.Secp256k1

/-! ### Points by `x` and the parity of `y` -/

theorem Field.sub_zero_left {y : Nat} (hpos : 0 < y) : Field.sub 0 y = prime - y := by
  rw [Field.sub, Nat.zero_add, Nat.mod_eq_of_lt (Nat.sub_lt Field.prime_pos hpos)]

theorem Field.odd_sub_zero_left {y : Nat} (hpos : 0 < y) (hy : y < prime) :
    (Field.sub 0 y % 2 == 1) = !(y % 2 == 1) := by
  have hodd : prime % 2 = 1 := by decide
  rw [Field.sub_zero_left hpos, Bool.eq_iff_iff]
  simp only [beq_iff_eq, Bool.not_eq_true', beq_eq_false_iff_ne, ne_eq]
  omega

theorem Field.mul_neg_neg {y : Nat} (hy : y < prime) : Field.mul (Field.sub 0 y) (Field.sub 0 y) = Field.mul y y := by
  rw [← Field.cast_inj (Field.mul_lt _ _) (Field.mul_lt _ _), Field.cast_mul, Field.cast_mul, Field.cast_sub 0 hy]
  ring

/-- The field prime is three more than a multiple of four, so a root of a square is a power of it. -/
theorem power_square {y : Nat} (hy : y < prime) :
    power prime (Field.mul y y) ((prime + 1) / 4) = y
      ∨ power prime (Field.mul y y) ((prime + 1) / 4) = Field.sub 0 y := by
  have hexponent : (prime + 1) / 4 * 2 * 2 = prime + 1 := by decide
  have hpower := cast_power (b := Field.mul y y) (show 1 < prime by decide) (show (prime + 1) / 4 < 2 ^ 256 by decide)
  have hlt : power prime (Field.mul y y) ((prime + 1) / 4) < prime := power_lt (by decide) (by decide)
  generalize power prime (Field.mul y y) ((prime + 1) / 4) = root at hpower hlt ⊢
  generalize (prime + 1) / 4 = e at hexponent hpower
  have hsquare : (root : Coordinate) * root = y * y := by
    rw [hpower, Field.cast_mul, ← pow_two, ← pow_mul, ← pow_two, ← pow_mul, Nat.mul_comm 2, hexponent, pow_succ,
      ZMod.pow_card, pow_two]
  rw [← Field.cast_inj hlt hy, ← Field.cast_inj hlt (Field.sub_lt 0 y), Field.cast_sub 0 hy, Nat.cast_zero, zero_sub]
  exact mul_self_eq_mul_self_iff.1 hsquare

namespace Point

theorem lift?_of_denotes {x y : Nat} {P : curve.Point} (h : (affine x y).Denotes P) :
    lift? x (y % 2 == 1) = some (affine x y) := by
  obtain ⟨hx, hy, hxy⟩ := onCurve_iff.2 ⟨P, h⟩
  have hroot := power_square hy
  rw [lift?, ← hxy]
  generalize power prime (Field.mul y y) ((prime + 1) / 4) = root at hroot ⊢
  rcases Nat.eq_zero_or_pos y with rfl | hpos
  · obtain rfl : root = 0 := hroot.elim id id
    rw [if_pos ⟨hx, rfl⟩, if_pos rfl]
  rcases hroot with rfl | hnegative
  · rw [if_pos ⟨hx, rfl⟩, if_pos rfl]
  · have hodd := Field.odd_sub_zero_left hpos hy
    have hsub := Field.sub_zero_left hpos
    have hback : Field.sub 0 root = y := by
      rw [Field.sub_zero_left (by omega)]
      omega
    have hsquare : Field.mul root root = Field.mul y y := by rw [hnegative, Field.mul_neg_neg hy]
    rw [← hnegative] at hodd
    rw [if_pos ⟨hx, hsquare⟩, hodd, if_neg (by simp), hback]

theorem Denotes.add_self {x : Nat} {P : curve.Point} (h : (Point.affine x 0).Denotes P) : P + P = 0 := by
  cases h with
  | affine => exact WeierstrassCurve.Affine.Point.add_self_of_Y_eq (by simp [curve])

theorem onCurve_of_lift? {x : Nat} {odd : Bool} {p : Point} (h : lift? x odd = some p) : p.OnCurve := by
  rw [lift?] at h
  have hlt : power prime (Field.add (Field.mul x (Field.mul x x)) 7) ((prime + 1) / 4) < prime :=
    power_lt (by decide) (by decide)
  generalize power prime (Field.add (Field.mul x (Field.mul x x)) 7) ((prime + 1) / 4) = y at h hlt
  simp only [Option.ite_none_right_eq_some, Option.some.injEq] at h
  obtain ⟨⟨hx, hsquare⟩, rfl⟩ := h
  split
  · exact ⟨hx, hlt, hsquare⟩
  · exact ⟨hx, Field.sub_lt 0 y, by rw [Field.mul_neg_neg hlt, hsquare]⟩

/-- No multiple of the generator is its own negative. -/
theorem pos_of_mul_generator {k x y : Nat} (hpos : 0 < k) (hk : k < order) (h : mul k generator = affine x y) :
    0 < y := by
  refine Nat.pos_of_ne_zero ?_
  rintro rfl
  have hdenotes := denotes_mul_generator (lt_pow_of_lt_order hk)
  rw [h] at hdenotes
  have hdouble := hdenotes.add_self
  rw [← map_add, map_eq_zero_iff _ multiple_injective, ← two_mul, ← Nat.cast_two] at hdouble
  exact mul_ne_zero (cast_order_ne_zero (by decide) (by decide)) (cast_order_ne_zero hpos hk) hdouble

end Point

/-! ### Recovery -/

namespace Signature

theorem mod_order_lt_pow (a : Nat) : a % order < 2 ^ 256 := lt_pow_of_lt_order (Nat.mod_lt a (by decide))

/-- There are less than twice as many coordinates as scalars, so one wrap at most was lost. -/
theorem unwrap_eq {x : Nat} (hx : x < prime) : (if decide (order ≤ x) then x % order + order else x % order) = x := by
  have hsmall : prime < 2 * order := by decide
  by_cases hwrap : order ≤ x
  · rw [if_pos (by simpa using hwrap), Nat.mod_eq_sub_mod hwrap, Nat.mod_eq_of_lt (by omega), Nat.sub_add_cancel hwrap]
  · rw [if_neg (by simpa using hwrap), Nat.mod_eq_of_lt (by omega)]

theorem mul_whole {k : Nat} (hpos : 0 < k) (hk : k < order) (key digest x : Nat) :
    (k : ZMod order) * (whole k key digest x : Nat) = digest + (x % order : Nat) * key := by
  rw [whole, ZMod.natCast_mod, Nat.cast_mul, cast_inverse (by decide) (by decide),
    mul_inv_cancel_left₀ (cast_order_ne_zero hpos hk), Nat.cast_add, Nat.cast_mul]

/-- The nonce point of a signature is a multiple of the generator by a scalar that ties `s` to the key and the digest.
The scalar is the nonce or, where `s` was negated, its negative. -/
theorem exists_nonce_of_ofNonce? {k key digest : Nat} {sig : Signature} (hpos : 0 < k) (hk : k < order)
    (h : ofNonce? k key digest = some sig) : ∃ p c,
      Point.lift? (if sig.wrapped then sig.r + order else sig.r) sig.odd = some p ∧ p.Denotes (multiple c) ∧
      c * sig.s = digest + sig.r * key := by
  obtain ⟨x, y, hmul, -, -, hsig⟩ := ofNonce?_eq_some_iff.1 h
  have hdenotes := denotes_mul_generator (lt_pow_of_lt_order hk)
  have hy := Point.pos_of_mul_generator hpos hk hmul
  rw [hmul] at hdenotes
  obtain ⟨hx, hylt, -⟩ := Point.onCurve_iff.2 ⟨_, hdenotes⟩
  have hwhole := mul_whole hpos hk key digest x
  split at hsig
  · subst hsig
    have hlift := Point.lift?_of_denotes hdenotes.neg
    have hlt : whole k key digest x < order := Nat.mod_lt _ (by decide)
    rw [Field.odd_sub_zero_left hy hylt] at hlift
    refine ⟨_, -(k : ZMod order), by rw [unwrap_eq hx]; exact hlift, by rw [map_neg]; exact hdenotes.neg, ?_⟩
    rw [Nat.cast_sub (Nat.le_of_lt hlt), ZMod.natCast_self, zero_sub, neg_mul_neg]
    exact hwhole
  · subst hsig
    exact ⟨_, _, by rw [unwrap_eq hx]; exact Point.lift?_of_denotes hdenotes, hdenotes, hwhole⟩

theorem recover?_ofNonce? {k key digest : Nat} {sig : Signature} (hpos : 0 < k) (hk : k < order) (hkey : key < order)
    (h : ofNonce? k key digest = some sig) : sig.recover? digest = some (Point.mul key generator) := by
  obtain ⟨⟨hr, hrlt⟩, -⟩ := bounds_of_ofNonce? h
  obtain ⟨p, c, hlift, hp, hc⟩ := exists_nonce_of_ofNonce? hpos hk h
  rw [recover?, hlift]
  dsimp only
  have hsum := (hp.mul_multiple (mod_order_lt_pow (inverse order sig.r * sig.s))).add
    (denotes_mul_generator (mod_order_lt_pow (inverse order sig.r * (digest % order)))).neg
  have hscalar : ((inverse order sig.r * sig.s % order : Nat) : ZMod order) * c
      - (inverse order sig.r * (digest % order) % order : Nat) = key := by
    rw [ZMod.natCast_mod, ZMod.natCast_mod, Nat.cast_mul, Nat.cast_mul, ZMod.natCast_mod,
      cast_inverse (by decide) (by decide), mul_assoc, mul_comm (sig.s : ZMod order), hc, ← mul_sub, add_sub_cancel_left,
      inv_mul_cancel_left₀ (cast_order_ne_zero hr hrlt)]
  rw [← sub_eq_add_neg, ← map_sub, hscalar] at hsum
  exact congrArg some (hsum.unique (denotes_mul_generator (lt_pow_of_lt_order hkey)))

/-- A signature gives one point back for digests only that are equal as scalars. -/
theorem digest_eq_of_recover? {sig : Signature} {digest digest' : Nat} {p : Point} (hr : 0 < sig.r)
    (hrlt : sig.r < order) (h : sig.recover? digest = some p) (h' : sig.recover? digest' = some p) :
    digest % order = digest' % order := by
  rw [recover?] at h h'
  split at h
  · cases h
  · next nonce hlift =>
    rw [hlift] at h'
    obtain ⟨N, hN⟩ := Point.onCurve_iff.1 (Point.onCurve_of_lift? hlift)
    have hdenotes (d : Nat) := (hN.mul (mod_order_lt_pow (inverse order sig.r * sig.s))).add
      (denotes_mul_generator (mod_order_lt_pow (inverse order sig.r * (d % order)))).neg
    have hpoint := hdenotes digest
    have hpoint' := hdenotes digest'
    rw [Option.some.inj h] at hpoint
    rw [Option.some.inj h'] at hpoint'
    have hscalar := multiple_injective (neg_injective (add_left_cancel (hpoint.unique_element hpoint')))
    simp only [ZMod.natCast_mod, Nat.cast_mul] at hscalar
    rw [cast_inverse (by decide) (by decide)] at hscalar
    have hcast := mul_left_cancel₀ (inv_ne_zero (cast_order_ne_zero hr hrlt)) hscalar
    exact (ZMod.natCast_eq_natCast_iff' _ _ _).1 hcast

end Signature

/-- What a reader gets of `r`, `s` and the parity `v`: numbers in range, and from them and the digest the point. -/
structure Attests (p : Point) (digest r s v : Nat) : Prop where
  r_pos : 1 ≤ r
  r_lt : r < order
  s_pos : 1 ≤ s
  s_le : s ≤ order / 2
  parity : v = 0 ∨ v = 1
  recover : Signature.recover? ⟨r, s, v == 1, false⟩ digest = some p

theorem attests_of_sign? {key digest : Nat} {sig : Signature} (hkey : key < order) (h : sign? key digest = some sig)
    (hwrapped : sig.wrapped = false) : Attests (Point.mul key generator) digest sig.r sig.s sig.odd.toNat := by
  rw [sign?, Option.bind_eq_some_iff] at h
  obtain ⟨k, hnonce, hsig⟩ := h
  obtain ⟨hpos, hk⟩ := Drbg.scalar?_bounds hnonce
  obtain ⟨⟨hr, hrlt⟩, hs, hsle⟩ := Signature.bounds_of_ofNonce? hsig
  have hrecover := Signature.recover?_ofNonce? hpos hk hkey hsig
  obtain ⟨r, s, odd, wrapped⟩ := sig
  subst hwrapped
  cases odd with
  | false => exact ⟨hr, hrlt, hs, hsle, .inl rfl, hrecover⟩
  | true => exact ⟨hr, hrlt, hs, hsle, .inr rfl, hrecover⟩

end Keyring.Secp256k1
