import Keyring.Evm.Account

/-! The call that moves tokens, the same for contracts of every chain: a selector of four bytes, then the recipient
and the amount in 32 bytes each. -/
namespace Keyring.Token

/-- The first four bytes of the digest of `transfer(address,uint256)`. -/
def selector : Bytes := [0xa9, 0x05, 0x9c, 0xbb]

def arguments (recipient : Evm.Account) (amount : Nat) : Bytes :=
  List.replicate 12 0 ++ recipient.bytes ++ Bytes.ofNat 32 amount

def transferData (recipient : Evm.Account) (amount : Nat) : Bytes := selector ++ arguments recipient amount

@[simp] theorem length_arguments (recipient : Evm.Account) (amount : Nat) :
    (arguments recipient amount).length = 64 := by simp [arguments]

end Keyring.Token
