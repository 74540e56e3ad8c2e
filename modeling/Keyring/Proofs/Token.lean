import Keyring.Hash.Keccak
import Keyring.Proofs.Bytes
import Keyring.Token

/-! Calls that move tokens, read back. The arguments of a call are the only bytes that are read as its recipient and
amount, so no two calls have the same ones. -/
namespace Keyring.Token

theorem selector_eq_keccak256 : selector = (keccak256 (Bytes.utf8 "transfer(address,uint256)")).take 4 := by
  decide +kernel

/-- Reads 12 zeros, the 20 bytes of an account, and a number in 32 bytes. -/
def ofArguments? (bs : Bytes) : Option (Evm.Account × Nat) :=
  if h : bs.length = 64 ∧ bs.take 12 = List.replicate 12 0 then
    some (⟨(bs.drop 12).take 20, by rw [List.length_take, List.length_drop, h.1]; rfl⟩, Bytes.toNat (bs.drop 32))
  else none

theorem ofArguments?_arguments (recipient : Evm.Account) {amount : Nat} (h : amount < 2 ^ 256) :
    ofArguments? (arguments recipient amount) = some (recipient, amount) := by
  have hfront : (List.replicate 12 0 ++ recipient.bytes : Bytes).length = 32 := by simp
  have hzeros : (arguments recipient amount).take 12 = List.replicate 12 0 := by
    rw [arguments, List.append_assoc, List.take_left' (by simp)]
  have haccount : ((arguments recipient amount).drop 12).take 20 = recipient.bytes := by
    rw [arguments, List.append_assoc, List.drop_left' (by simp), List.take_left' recipient.length_bytes]
  have hamount : Bytes.toNat ((arguments recipient amount).drop 32) = amount := by
    rw [arguments, List.drop_left' hfront, Bytes.toNat_ofNat, Nat.mod_eq_of_lt h]
  rw [ofArguments?, dif_pos ⟨length_arguments recipient amount, hzeros⟩]
  simp only [haccount, hamount]

theorem eq_arguments_of_ofArguments? {bs : Bytes} {recipient : Evm.Account} {amount : Nat}
    (h : ofArguments? bs = some (recipient, amount)) : amount < 2 ^ 256 ∧ bs = arguments recipient amount := by
  rw [ofArguments?] at h
  split at h
  · next hbs =>
    obtain ⟨hlength, hzeros⟩ := hbs
    have hamount : (bs.drop 32).length = 32 := by rw [List.length_drop, hlength]
    have hlt : Bytes.toNat (bs.drop 32) < 2 ^ 256 := by
      have hlt := Bytes.toNat_lt (bs.drop 32)
      rwa [hamount] at hlt
    have hsplit : bs = bs.take 12 ++ (bs.drop 12).take 20 ++ bs.drop 32 := by
      rw [List.append_assoc, ← List.drop_drop (i := 20) (j := 12), List.take_append_drop, List.take_append_drop]
    cases h
    refine ⟨hlt, ?_⟩
    rw [hzeros] at hsplit
    rw [arguments, Bytes.ofNat_toNat hamount]
    exact hsplit
  · cases h

/-- Bytes are read as a recipient and an amount just when they are the arguments that are written for them. -/
theorem ofArguments?_eq_some_iff {bs : Bytes} {recipient : Evm.Account} {amount : Nat} :
    ofArguments? bs = some (recipient, amount) ↔ amount < 2 ^ 256 ∧ bs = arguments recipient amount := by
  refine ⟨eq_arguments_of_ofArguments?, ?_⟩
  rintro ⟨hlt, rfl⟩
  exact ofArguments?_arguments recipient hlt

theorem arguments_inj {a b : Evm.Account} {m n : Nat} (hm : m < 2 ^ 256) (hn : n < 2 ^ 256) :
    arguments a m = arguments b n ↔ a = b ∧ m = n := by
  constructor
  · intro h
    have hread : ofArguments? (arguments a m) = some (b, n) := ofArguments?_eq_some_iff.2 ⟨hn, h⟩
    rw [ofArguments?_arguments a hm] at hread
    cases hread
    exact ⟨rfl, rfl⟩
  · rintro ⟨rfl, rfl⟩
    rfl

end Keyring.Token
