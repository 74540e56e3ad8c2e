import Keyring.Hash.Hmac
import Keyring.Secp256k1.Field

/-! The nonce of a signature, drawn from an HMAC-SHA-256 generator that is seeded with the private key and
the digest, as RFC 6979 lays down: the same key and digest always give the same nonce. -/
namespace Keyring.Secp256k1

/-- A generator state: its HMAC key and its running value. -/
structure Drbg where
  key : Bytes
  value : Bytes

namespace Drbg

def feed (g : Drbg) (data : Bytes) : Drbg :=
  let key := hmacSha256 g.key (g.value ++ data)
  ⟨key, hmacSha256 key g.value⟩

def seeded (seed : Bytes) : Drbg :=
  ((Drbg.mk (List.replicate 32 0) (List.replicate 32 1)).feed (0 :: seed)).feed (1 :: seed)

/-- The first value between 1 and `order - 1` within `tries` draws. -/
def scalar? : (tries : Nat) → Drbg → Option Nat
  | 0, _ => none
  | tries + 1, g =>
    let value := hmacSha256 g.key g.value
    let k := Bytes.toNat value
    if 0 < k ∧ k < order then some k else scalar? tries ((Drbg.mk g.key value).feed [0])

end Drbg

/-- A draw misses with probability below `2 ^ -127`, so the bound on draws is never met. -/
def nonce? (key digest : Nat) : Option Nat :=
  (Drbg.seeded (Bytes.ofNat 32 key ++ Bytes.ofNat 32 (digest % order))).scalar? 64

end Keyring.Secp256k1
