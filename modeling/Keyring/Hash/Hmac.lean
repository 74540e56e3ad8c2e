import Keyring.Hash.Sha256
import Keyring.Hash.Sha512

/-! HMAC over SHA-256 and SHA-512. -/
namespace Keyring
namespace Hmac

/-- The key as one block: a long key is hashed first, and zeros fill the rest. -/
def block (hash : Bytes → Bytes) (size : Nat) (key : Bytes) : Bytes :=
  let k := if key.length ≤ size then key else hash key
  k ++ List.replicate (size - k.length) 0

def tag (hash : Bytes → Bytes) (size : Nat) (key m : Bytes) : Bytes :=
  let k := block hash size key
  hash (k.map (· ^^^ 0x5c) ++ hash (k.map (· ^^^ 0x36) ++ m))

end Hmac

def hmacSha256 (key m : Bytes) : Bytes := Hmac.tag sha256 64 key m

def hmacSha512 (key m : Bytes) : Bytes := Hmac.tag sha512 128 key m

@[simp] theorem length_hmacSha256 (key m : Bytes) : (hmacSha256 key m).length = 32 := rfl

@[simp] theorem length_hmacSha512 (key m : Bytes) : (hmacSha512 key m).length = 64 := rfl

end Keyring
