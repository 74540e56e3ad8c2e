import Keyring.Base58
import Keyring.Hash.Sha256

/-! Base-58 text with a checksum: four bytes of a double SHA-256 follow the payload. -/
namespace Keyring.Base58Check

def checksum (payload : Bytes) : Bytes := (sha256 (sha256 payload)).take 4

def encode (payload : Bytes) : String := Base58.encode (payload ++ checksum payload)

/-- The payload of a text whose checksum holds. -/
def decode? (s : String) : Option Bytes :=
  match Base58.decode? s with
  | none => none
  | some bs =>
    let payload := bs.take (bs.length - 4)
    if 4 ≤ bs.length ∧ bs.drop (bs.length - 4) = checksum payload then some payload else none

@[simp] theorem length_checksum (payload : Bytes) : (checksum payload).length = 4 := by simp [checksum]

end Keyring.Base58Check
