import Keyring.Base58.Check
import Keyring.Hash.Hmac
import Keyring.Hash.Ripemd160
import Keyring.PrivateKey

/-! Bitcoin master keys: a private key and a chain code, both made from one seed as BIP 32 lays down. The key
and its public counterpart are written as extended keys of depth zero, and the address is the hash of the
uncompressed public key. -/
namespace Keyring.Bitcoin

structure MasterKey where
  key : PrivateKey
  chainCode : Bytes
  length_chainCode : chainCode.length = 32

namespace MasterKey

/-- The left half of the tag of a seed is the key and the right half the chain code. -/
def ofSeed? (seed : Bytes) : Option MasterKey :=
  let tag := hmacSha512 (Bytes.utf8 "Bitcoin seed") seed
  match PrivateKey.ofNat? (Bytes.toNat (tag.take 32)) with
  | none => none
  | some key => some ⟨key, tag.drop 32, by simp [tag]⟩

/-- An extended key without parent: its version, 9 zero bytes, the chain code and 33 bytes of key. -/
def extended (version : Bytes) (chainCode key : Bytes) : Bytes :=
  version ++ List.replicate 9 0 ++ chainCode ++ key

def privateText (m : MasterKey) : String :=
  Base58Check.encode (extended [0x04, 0x88, 0xad, 0xe4] m.chainCode (0 :: m.key.bytes))

def publicText (m : MasterKey) : String :=
  Base58Check.encode (extended [0x04, 0x88, 0xb2, 0x1e] m.chainCode m.key.point.compressed)

end MasterKey

/-- The hash of a public key: RIPEMD-160 of SHA-256. -/
def keyHash (publicKey : Bytes) : Bytes := ripemd160 (sha256 publicKey)

/-- The address that pays to the hash of a public key. -/
def hashAddress (hash : Bytes) : String := Base58Check.encode (0 :: hash)

namespace MasterKey

def address (m : MasterKey) : String := hashAddress (keyHash m.key.point.uncompressed)

end MasterKey
end Keyring.Bitcoin
