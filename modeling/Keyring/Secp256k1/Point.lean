import Keyring.Bytes
import Keyring.Secp256k1.Field

/-! The points of `y ^ 2 = x ^ 3 + 7`. Sums are formed in Jacobian coordinates, where `(x, y, z)` stands for
`(x / z ^ 2, y / z ^ 3)`, so that a multiple costs one division. -/
namespace Keyring.Secp256k1

inductive Point where
  | infinity
  | affine (x y : Nat)
deriving DecidableEq, Repr

def generator : Point := .affine
  0x79be667ef9dcbbac55a06295ce870b07029bfcdb2dce28d959f2815b16f81798
  0x483ada7726a3c4655da4fbfc0e1108a8fd17b448a68554199c47d08ffb10d4b8

/-- Jacobian coordinates; `z = 0` is the point at infinity. -/
structure Jacobian where
  x : Nat
  y : Nat
  z : Nat

namespace Jacobian

open Keyring.Secp256k1.Field

def infinity : Jacobian := ⟨1, 1, 0⟩

def double (q : Jacobian) : Jacobian :=
  if q.z = 0 ∨ q.y = 0 then infinity else
  let b := mul q.y q.y
  let d := mul 4 (mul q.x b)
  let e := mul 3 (mul q.x q.x)
  let x := sub (mul e e) (mul 2 d)
  ⟨x, sub (mul e (sub d x)) (mul 8 (mul b b)), mul 2 (mul q.y q.z)⟩

/-- The sum with the affine point `(x, y)`. -/
def addAffine (q : Jacobian) (x y : Nat) : Jacobian :=
  if q.z = 0 then ⟨x, y, 1⟩ else
  let zz := mul q.z q.z
  let h := sub (mul x zz) q.x
  let r := sub (mul y (mul zz q.z)) q.y
  if h = 0 then (if r = 0 then q.double else infinity) else
  let hh := mul h h
  let hhh := mul hh h
  let v := mul q.x hh
  let x3 := sub (sub (mul r r) hhh) (mul 2 v)
  ⟨x3, sub (mul r (sub v x3)) (mul q.y hhh), mul q.z h⟩

def add (q : Jacobian) : Point → Jacobian
  | .infinity => q
  | .affine x y => q.addAffine x y

def ofPoint : Point → Jacobian
  | .infinity => infinity
  | .affine x y => ⟨x, y, 1⟩

def toPoint (q : Jacobian) : Point :=
  if q.z = 0 then .infinity else
  let i := inverse prime q.z
  let ii := mul i i
  .affine (mul q.x ii) (mul q.y (mul ii i))

end Jacobian

namespace Point

def add (p q : Point) : Point := ((Jacobian.ofPoint p).add q).toPoint

def neg : Point → Point
  | .infinity => .infinity
  | .affine x y => .affine x (Field.sub 0 y)

/-- The `k`-fold sum of `p`, for a scalar of at most 256 bits. -/
def mul (k : Nat) (p : Point) : Point :=
  ((bits 256 k).foldl (fun q bit => if bit then q.double.add p else q.double) Jacobian.infinity).toPoint

def OnCurve : Point → Prop
  | .infinity => True
  | .affine x y => x < prime ∧ y < prime ∧ Field.mul y y = Field.add (Field.mul x (Field.mul x x)) 7

/-- The byte 4 and both coordinates at full width; the point at infinity is the single byte 0. -/
def uncompressed : Point → Bytes
  | .infinity => [0]
  | .affine x y => 4 :: Bytes.ofNat 32 x ++ Bytes.ofNat 32 y

/-- The parity of `y`, as 2 or 3, and `x` at full width; the point at infinity is the single byte 0. -/
def compressed : Point → Bytes
  | .infinity => [0]
  | .affine x y => (if y % 2 = 0 then 2 else 3) :: Bytes.ofNat 32 x

/-- The point with this `x` and this parity of `y`. -/
def lift? (x : Nat) (odd : Bool) : Option Point :=
  let yy := Field.add (Field.mul x (Field.mul x x)) 7
  let y := power prime yy ((prime + 1) / 4)
  if x < prime ∧ Field.mul y y = yy then
    some (.affine x (if (y % 2 == 1) = odd then y else Field.sub 0 y))
  else none

end Point
end Keyring.Secp256k1
