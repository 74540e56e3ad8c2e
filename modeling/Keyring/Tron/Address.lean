import Keyring.Base58.Check
import Keyring.Evm.Account

/-! TRON addresses: base-58 text with a checksum, over the byte `0x41` and the 20 bytes of the account that the
same key has on an Ethereum chain. -/
namespace Keyring.Tron

/-- The first byte of every address on the main network. -/
def version : UInt8 := 0x41

namespace Address

def ofAccount (a : Evm.Account) : String := Base58Check.encode (version :: a.bytes)

/-- A payload names the account behind its version byte. -/
def accountOf? (payload : Bytes) : Option Evm.Account :=
  match payload with
  | [] => none
  | v :: rest => if h : v = version ∧ rest.length = 20 then some ⟨rest, h.2⟩ else none

def account? (address : String) : Option Evm.Account :=
  if Keyring.Address.isTron address then (Base58Check.decode? address).bind accountOf? else none

def parse (address : String) : Except Error Evm.Account :=
  match account? address with
  | some a => .ok a
  | none => .error .invalidAddress

/-- The digits of the payload of an address. -/
def toHex (address : String) : Except Error String :=
  match parse address with
  | .ok a => .ok (Hex.encode (version :: a.bytes))
  | .error e => .error e

/-- The address with a payload given as digits. -/
def ofHex (digits : String) : Except Error String :=
  match Hex.parse digits with
  | .error _ => .error .invalidAddress
  | .ok payload =>
    match accountOf? payload with
    | some a => .ok (ofAccount a)
    | none => .error .invalidAddress

end Address
end Keyring.Tron
