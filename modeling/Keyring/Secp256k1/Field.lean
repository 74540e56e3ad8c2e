/-! Arithmetic modulo the field prime and the group order of secp256k1, on reduced natural numbers. -/
namespace Keyring.Secp256k1

def prime : Nat := 0xfffffffffffffffffffffffffffffffffffffffffffffffffffffffefffffc2f

/-- The number of points on the curve, a prime. -/
def order : Nat := 0xfffffffffffffffffffffffffffffffebaaedce6af48a03bbfd25e8cd0364141

/-- The `w` low bits of `n`, the highest first. -/
def bits : (w n : Nat) → List Bool
  | 0, _ => []
  | w + 1, n => n.testBit w :: bits w n

/-- `b ^ e` modulo `m` for an exponent of at most 256 bits, by squaring. -/
def power (m b e : Nat) : Nat :=
  (bits 256 e).foldl (fun acc bit => let s := acc * acc % m; if bit then s * b % m else s) 1

/-- The inverse modulo a prime, by Fermat's little theorem; zero has the inverse zero. -/
def inverse (m a : Nat) : Nat := power m a (m - 2)

namespace Field

def add (a b : Nat) : Nat := (a + b) % prime

def sub (a b : Nat) : Nat := (a + (prime - b)) % prime

def mul (a b : Nat) : Nat := a * b % prime

end Field
end Keyring.Secp256k1
