import Keyring.Proofs.Evm.Verdict
import Keyring.Proofs.Provider
import Keyring.Proofs.Secp256k1.Recovery
import Keyring.Proofs.Tron.Verdict

/-! The signatures that leave the program, as their readers find them. Those of both chains' transactions give back the
public key of the wallet that signed, and for a wallet that was made here the address it stores. -/
namespace Keyring

open Secp256k1

/-! ### Signatures in 65 bytes -/

theorem PrivateKey.sign_attests {key : PrivateKey} {digest : Bytes} (h : Signable key.scalar (Bytes.toNat digest)) :
    ∃ sig, key.sign digest = .ok sig ∧ sig.wrapped = false
      ∧ Attests key.point (Bytes.toNat digest) sig.r sig.s sig.odd.toNat := by
  obtain ⟨sig, hsig, hwrapped⟩ := signable_iff.1 h
  exact ⟨sig, Error.ifNone_eq_ok_iff.2 hsig, hwrapped, attests_of_sign? key.lt_order hsig hwrapped⟩

namespace Sample

def key : PrivateKey := Evm.Sample.key

def wallet : Wallet := Provider.keyWallet ⟨.nil, .epoch⟩ .ethereum Evm.Account.toText key

theorem generate_eq :
    ((Provider.evm .ethereum rfl Entropy.source).generate ⟨.nil, .epoch⟩ (.constant 1)).1 = .ok wallet := by
  have hdraw : (PrivateKey.draw Entropy.source (.constant 1)).1 = .ok key := by decide
  exact Provider.generate_evm_eq_ok_iff.2 ⟨key, hdraw, rfl⟩

def transaction : Tron.Transaction := { Tron.Transaction.empty with rawDataHex := "0a02" }

theorem raw_eq : transaction.raw = .ok [0x0a, 0x02] := by rfl

/-- The number that is signed. -/
def digest : Nat := 0xad406961a6518e07ac4e40031f9e4e0486f443208da45ef02e336c3d4a0a50bb

theorem digest_eq : Bytes.toNat (sha256 [0x0a, 0x02]) = digest := by decide +kernel

theorem signable : Signable key.scalar digest :=
  signable_of_states
    (.ofNats 0x7f06055942581059242f4a439888a36981cca4b186ace425a985713d20bee60f
      0x222fe6e5e02ebd9b05b8fe9b7f36d42348037ac361d0aa358f5a2ad6a3a0eeda)
    (.ofNats 0x9cf6e9eb6660562bd78499054a6311f69b0b369cfe8f7dab5866aa5319871b2e
      0x1a8976b82f289d329fdb20f10a5be0b68d796fd45038ee7d5a66fec12bc6bf62)
    0xfdb6f5ee7bbf7819c05541b794b4f2c07c3ab2ad0bd7d32c5bef1707ca0d452e
    (by decide +kernel) (by decide +kernel) (by decide +kernel) (by decide +kernel)

end Sample

end Keyring
