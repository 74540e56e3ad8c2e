import Keyring.Entropy
import Keyring.Error
import Keyring.Secp256k1.Signature

/-! Private keys of secp256k1: numbers from 1 to `order - 1`. A key is written as `0x` and 64 lower-case digits,
and drawn from a source in blocks of 32 bytes, of which the first that is a key is taken. -/
namespace Keyring

open Secp256k1

structure PrivateKey where
  scalar : Nat
  pos : 0 < scalar
  lt_order : scalar < order
deriving DecidableEq

namespace PrivateKey

def ofNat? (n : Nat) : Option PrivateKey :=
  if h : 0 < n ∧ n < order then some ⟨n, h.1, h.2⟩ else none

/-- A key is 32 bytes; of a shorter string of at least 24 bytes the missing ones in front count as zeros. -/
def ofBytes? (bs : Bytes) : Option PrivateKey :=
  if 24 ≤ bs.length ∧ bs.length ≤ 32 then ofNat? (Bytes.toNat bs) else none

def bytes (key : PrivateKey) : Bytes := Bytes.ofNat 32 key.scalar

def point (key : PrivateKey) : Point := Point.mul key.scalar generator

def encode (key : PrivateKey) : String := "0x" ++ Hex.encode key.bytes

/-- The public key in its uncompressed form. -/
def encodePublic (p : Point) : String := "0x" ++ Hex.encode p.uncompressed

def parse (s : String) : Except Error PrivateKey :=
  match Hex.parse s with
  | .error fault => .error (.invalidPrivateKey (.digits fault))
  | .ok bs =>
    match ofBytes? bs with
    | some key => .ok key
    | none => .error (.invalidPrivateKey .scalar)

/-- Signs the number that a 32-byte digest spells. -/
def sign (key : PrivateKey) (digest : Bytes) : Except Error Signature :=
  (Error.signing .nonce).ifNone (sign? key.scalar (Bytes.toNat digest))

/-- The first key within `tries` blocks. -/
def drawWithin {σ : Type} (source : Source σ) : (tries : Nat) → σ → Except Error PrivateKey × σ
  | 0, s => (.error (.keyGeneration .noScalar), s)
  | tries + 1, s =>
    match source.fill 32 s with
    | (.error reason, s) => (.error (.keyGeneration (.source reason)), s)
    | (.ok block, s) =>
      match ofNat? (Bytes.toNat block.val) with
      | some key => (.ok key, s)
      | none => drawWithin source tries s

def draw {σ : Type} (source : Source σ) (s : σ) : Except Error PrivateKey × σ := drawWithin source 16 s

end PrivateKey
end Keyring
