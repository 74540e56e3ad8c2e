import Keyring.PrivateKey
import Keyring.Proofs.Condition
import Keyring.Wallet

/-! What a wallet must be to sign on a chain: one of that chain, with a key that can be read. -/
namespace Keyring

theorem PrivateKey.parse_eq_error {s : String} {e : Error} (h : parse s = .error e) :
    ∃ fault, e = .invalidPrivateKey fault := by
  rw [parse] at h
  split at h
  · cases h
    exact ⟨_, rfl⟩
  · split at h <;> cases h
    exact ⟨_, rfl⟩

theorem PrivateKey.sign_eq_error {key : PrivateKey} {digest : Bytes} {e : Error} (h : key.sign digest = .error e) :
    e = .signing .nonce := by
  rw [sign, Error.ifNone_eq_error_iff] at h
  exact h.2

namespace Wallet

def ofChain (w : Wallet) (c : Chain) : Condition where
  Holds := w.chain = c
  Fault := (· = .unknownChain (.foreignWallet w.id w.chain c))

def keyReadable (w : Wallet) : Condition where
  Holds := ∃ key, PrivateKey.parse w.privateKey = .ok key
  Fault := fun e => ∃ fault, e = .invalidPrivateKey fault

theorem governs_parse (w : Wallet) : Governs [w.keyReadable] (PrivateKey.parse w.privateKey) :=
  .single Iff.rfl fun _ => PrivateKey.parse_eq_error

end Wallet
end Keyring
