import Keyring.Secp256k1.Nonce
import Keyring.Secp256k1.Point

/-! ECDSA signatures with the smaller of the two values of `s`, and the recovery of the public key from a
signature and the digest it signs. -/
namespace Keyring.Secp256k1

structure Signature where
  r : Nat
  s : Nat
  /-- Whether the nonce point that `s` belongs to has an odd `y`. -/
  odd : Bool
  /-- Whether the `x` of the nonce point is `r + order`. -/
  wrapped : Bool
deriving DecidableEq, Repr

namespace Signature

/-- Negating `s` negates the nonce point, so the parity changes with it. -/
def ofNonce? (k key digest : Nat) : Option Signature :=
  match Point.mul k generator with
  | .infinity => none
  | .affine x y =>
    let r := x % order
    let s := inverse order k * (digest + r * key) % order
    if r = 0 ∨ s = 0 then none else
    let high := decide (order / 2 < s)
    some ⟨r, if high then order - s else s, (y % 2 == 1) != high, decide (order ≤ x)⟩

/-- The recovery byte: the parity in bit 0 and the wrap in bit 1. -/
def recovery (sig : Signature) : UInt8 := (if sig.odd then 1 else 0) + (if sig.wrapped then 2 else 0)

/-- `r`, `s` and the recovery byte, 65 bytes in all. -/
def bytes (sig : Signature) : Bytes := Bytes.ofNat 32 sig.r ++ Bytes.ofNat 32 sig.s ++ [sig.recovery]

@[simp] theorem length_bytes (sig : Signature) : sig.bytes.length = 65 := by simp [bytes]

/-- The key whose signature of `digest` this is: `(s * R - digest * G) / r`. -/
def recover? (sig : Signature) (digest : Nat) : Option Point :=
  match Point.lift? (if sig.wrapped then sig.r + order else sig.r) sig.odd with
  | none => none
  | some nonce =>
    let i := inverse order sig.r
    some ((Point.mul (i * sig.s % order) nonce).add
      (Point.mul (i * (digest % order) % order) generator).neg)

end Signature

/-- Signs the number that a 32-byte digest spells. -/
def sign? (key digest : Nat) : Option Signature :=
  (nonce? key digest).bind fun k => Signature.ofNonce? k key digest

end Keyring.Secp256k1
