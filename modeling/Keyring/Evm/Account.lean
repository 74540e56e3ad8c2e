import Keyring.Address
import Keyring.Hash.Keccak
import Keyring.Secp256k1.Point

/-! Accounts of the Ethereum family: the last 20 bytes of the Keccak-256 digest of a public key. An account is
written in the mixed case of EIP-55, which serves as a checksum, and read in any case. -/
namespace Keyring.Evm

structure Account where
  bytes : Bytes
  length_bytes : bytes.length = 20
deriving DecidableEq

namespace Account

attribute [simp] length_bytes

/-- The account of a public key hashes both coordinates at full width. -/
def ofPoint (p : Secp256k1.Point) : Account :=
  ⟨(keccak256 (p.uncompressed.drop 1)).drop 12, by simp⟩

/-- A letter is a capital when the digit at its place in `marks` is 8 or more. -/
def raise (c mark : Char) : Char :=
  if 'a' ≤ c ∧ '8' ≤ mark then Char.ofNat (c.toNat - 32) else c

/-- The digits that the account is written with, in small letters. -/
def digits (a : Account) : List Char := a.bytes.flatMap Hex.pair

/-- The EIP-55 text: the case of each letter is set by the digest of the small digits. -/
def toText (a : Account) : String :=
  let marks := (keccak256 (Bytes.utf8 (String.ofList a.digits))).flatMap Hex.pair
  "0x" ++ String.ofList (List.zipWith raise a.digits marks)

def parse? (s : String) : Option Account :=
  if Address.isEvm s then
    match Hex.decode (Bytes.utf8 (String.ofList (s.toList.drop 2))) with
    | .ok bs => if h : bs.length = 20 then some ⟨bs, h⟩ else none
    | .error _ => none
  else none

end Account
end Keyring.Evm
