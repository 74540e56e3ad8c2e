import Keyring.Proofs.Sequence
import Keyring.Secp256k1.Signature

/-! When signing ends in a signature, and the range of its numbers. -/
namespace Keyring.Secp256k1

theorem Drbg.scalar?_bounds {tries : Nat} {g : Drbg} {k : Nat} (h : g.scalar? tries = some k) : 0 < k ∧ k < order := by
  induction tries generalizing g with
  | zero => cases h
  | succ tries ih =>
    rw [scalar?] at h
    split at h
    · next hbounds =>
      cases h
      exact hbounds
    · exact ih h

namespace Signature

/-- What `s` is before the smaller of it and its negative is taken, for a nonce point with this `x`. -/
def whole (k key digest x : Nat) : Nat := inverse order k * (digest + x % order * key) % order

theorem ofNonce?_eq_some_iff {k key digest : Nat} {sig : Signature} :
    ofNonce? k key digest = some sig ↔ ∃ x y, Point.mul k generator = .affine x y ∧ x % order ≠ 0 ∧
      whole k key digest x ≠ 0 ∧
      sig = if order / 2 < whole k key digest x
        then ⟨x % order, order - whole k key digest x, !(y % 2 == 1), decide (order ≤ x)⟩
        else ⟨x % order, whole k key digest x, y % 2 == 1, decide (order ≤ x)⟩ := by
  unfold ofNonce?
  cases Point.mul k generator with
  | infinity => simp
  | affine x y =>
    dsimp only
    rw [← whole]
    simp only [Option.ite_none_left_eq_some, Option.some.injEq, not_or, Point.affine.injEq]
    constructor
    · rintro ⟨⟨hr, hs⟩, rfl⟩
      refine ⟨x, y, ⟨rfl, rfl⟩, hr, hs, ?_⟩
      by_cases hhigh : order / 2 < whole k key digest x <;> simp [hhigh]
    · rintro ⟨_, _, ⟨rfl, rfl⟩, hr, hs, rfl⟩
      refine ⟨⟨hr, hs⟩, ?_⟩
      by_cases hhigh : order / 2 < whole k key digest x <;> simp [hhigh]

/-- The numbers are from 1 on, and `s` is the smaller of it and its negative. -/
theorem bounds_of_ofNonce? {k key digest : Nat} {sig : Signature} (h : ofNonce? k key digest = some sig) :
    (1 ≤ sig.r ∧ sig.r < order) ∧ 1 ≤ sig.s ∧ sig.s ≤ order / 2 := by
  obtain ⟨x, y, -, hr, hs, rfl⟩ := ofNonce?_eq_some_iff.1 h
  have hrlt : x % order < order := Nat.mod_lt _ (by decide)
  have hslt : whole k key digest x < order := Nat.mod_lt _ (by decide)
  have hodd : order % 2 = 1 := by decide
  split <;> dsimp only <;> omega

end Signature

/-- What signing takes of the nonce: it is found, the `x` of its point is a scalar that is not zero, and neither is
the `s` that comes of it. -/
def Signable (key digest : Nat) : Prop :=
  ∃ k x y, nonce? key digest = some k ∧ Point.mul k generator = .affine x y ∧ 0 < x ∧ x < order ∧
    Signature.whole k key digest x ≠ 0

/-- Signing ends in a signature whose nonce point needs no wrap just when the nonce allows it. -/
theorem signable_iff {key digest : Nat} : Signable key digest ↔ ∃ sig, sign? key digest = some sig ∧ sig.wrapped = false := by
  simp only [Signable, sign?, Option.bind_eq_some_iff, Signature.ofNonce?_eq_some_iff]
  constructor
  · rintro ⟨k, x, y, hnonce, hmul, hx, hlt, hs⟩
    refine ⟨_, ⟨k, hnonce, x, y, hmul, by rw [Nat.mod_eq_of_lt hlt]; omega, hs, rfl⟩, ?_⟩
    split <;> simpa using hlt
  · rintro ⟨_, ⟨k, hnonce, x, y, hmul, hr, hs, rfl⟩, hwrapped⟩
    have hlt : x < order := by
      split at hwrapped <;> simpa using hwrapped
    exact ⟨k, x, y, hnonce, hmul, Nat.pos_of_ne_zero fun h => hr (by rw [h, Nat.zero_mod]), hlt, hs⟩

theorem signable_of_any {key digest : Nat} (h : (sign? key digest).any (fun sig => !sig.wrapped) = true) :
    Signable key digest := by
  obtain ⟨sig, hsig, hwrapped⟩ := (Option.any_eq_true _ _).1 h
  exact signable_iff.2 ⟨sig, hsig, by simpa using hwrapped⟩

deriving instance DecidableEq for Drbg

/-- A state by the numbers that its halves spell. -/
def Drbg.ofNats (key value : Nat) : Drbg := ⟨Bytes.ofNat 32 key, Bytes.ofNat 32 value⟩

/-- The nonce worked out state by state: the two that the generator is fed to, and the draw. -/
theorem signable_of_states {key digest : Nat} (g g' : Drbg) (k : Nat)
    (hfirst : (Drbg.mk (List.replicate 32 0) (List.replicate 32 1)).feed
      (0 :: (Bytes.ofNat 32 key ++ Bytes.ofNat 32 (digest % order))) = g)
    (hsecond : g.feed (1 :: (Bytes.ofNat 32 key ++ Bytes.ofNat 32 (digest % order))) = g')
    (hdraw : g'.scalar? 64 = some k)
    (h : (Signature.ofNonce? k key digest).any (fun sig => !sig.wrapped) = true) : Signable key digest := by
  have hnonce : nonce? key digest = some k := by rw [nonce?, Drbg.seeded, hfirst, hsecond, hdraw]
  refine signable_of_any ?_
  rw [sign?, hnonce, Option.bind_some, h]

end Keyring.Secp256k1
