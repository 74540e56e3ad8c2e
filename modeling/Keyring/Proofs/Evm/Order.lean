import Keyring.Evm.Order
import Keyring.Proofs.Amount
import Keyring.Proofs.Evm.Account
import Keyring.Proofs.Sequence

/-! The transfer that an order stands for, field by field. Checking an order succeeds just when there is one, and
gives it. -/
namespace Keyring.Evm

theorem parseAccount_eq_ok_iff {fault : Error} {s : String} {a : Account} :
    parseAccount fault s = .ok a ↔ a.NamedBy s := by
  rw [← Account.parse?_eq_some_iff, parseAccount]
  cases Account.parse? s <;> simp

namespace Order

/-- The contract of a transfer of tokens is the account that the order names; coins need none. -/
def Contracts (o : Order) (contract : Option Account) : Prop :=
  match o.kind with
  | .coin => contract = none
  | .token => ∃ s a, o.contract = some s ∧ a.NamedBy s ∧ contract = some a

structure StandsFor (o : Order) (t : Transfer) : Prop where
  recipient : t.recipient.NamedBy o.recipient
  contract : o.Contracts t.contract
  amount : Amount.Spells o.amount t.amount
  amount_lt : t.amount < 2 ^ 256
  maxFee : Amount.Spells o.maxFee t.maxFee
  maxFee_pos : 0 < t.maxFee
  maxFee_lt : t.maxFee < 2 ^ 128
  maxPriorityFee : Amount.Spells o.maxPriorityFee t.maxPriorityFee
  maxPriorityFee_pos : 0 < t.maxPriorityFee
  maxPriorityFee_lt : t.maxPriorityFee < 2 ^ 128
  gas : t.gas = o.gas.toNat
  gas_pos : 0 < t.gas
  chainId : (t.chainId : Int) = o.network.toInt
  chainId_pos : 0 < t.chainId
  nonce : (t.nonce : Int) = o.nonce.toInt

theorem checkContract_eq_ok_iff {o : Order} {contract : Option Account} :
    o.checkContract = .ok contract ↔ o.Contracts contract := by
  rw [checkContract, Contracts]
  cases o.kind with
  | coin => simp [eq_comm]
  | token =>
    cases o.contract with
    | none => simp
    | some s =>
      simp only [Except.map, Option.some.injEq]
      constructor
      · intro h
        split at h <;> cases h
        exact ⟨s, _, rfl, parseAccount_eq_ok_iff.1 ‹_›, rfl⟩
      · rintro ⟨_, a, rfl, ha, rfl⟩
        rw [parseAccount_eq_ok_iff.2 ha]

theorem one_le_toInt_iff {n : Int64} : ¬ n < 1 ↔ 1 ≤ n.toInt := by
  rw [Int64.lt_iff_toInt_lt, show (1 : Int64).toInt = 1 from rfl]
  omega

theorem zero_le_toInt_iff {n : Int64} : ¬ n < 0 ↔ 0 ≤ n.toInt := by
  rw [Int64.lt_iff_toInt_lt, show (0 : Int64).toInt = 0 from rfl]
  omega

theorem gas_pos_iff {n : UInt64} : ¬ n = 0 ↔ 0 < n.toNat := by
  rw [← UInt64.toNat_inj, show (0 : UInt64).toNat = 0 from rfl]
  omega

theorem check_eq_ok_iff {o : Order} {t : Transfer} : o.check = .ok t ↔ o.StandsFor t := by
  simp only [check, bind_eq_ok_iff, guard_eq_ok_iff, parseAccount_eq_ok_iff, checkContract_eq_ok_iff,
    Amount.parse_eq_ok_iff, Amount.parseFee_eq_ok_iff]
  constructor
  · rintro ⟨recipient, hrecipient, contract, hcontract, amount, ⟨hamount, hamountLt⟩, maxFee,
      ⟨hfee, hfeePos, hfeeLt⟩, maxPriorityFee, ⟨htip, htipPos, htipLt⟩, hgas, hnetwork, hnonce, h⟩
    cases h
    have hchain := one_le_toInt_iff.1 hnetwork
    have hzero := zero_le_toInt_iff.1 hnonce
    refine ⟨hrecipient, hcontract, hamount, hamountLt, hfee, hfeePos, hfeeLt, htip, htipPos, htipLt, rfl,
      ?_, ?_, ?_, ?_⟩
    · exact gas_pos_iff.1 hgas
    · exact Int.toNat_of_nonneg (by omega)
    · exact Int.pos_iff_toNat_pos.1 (by omega)
    · exact Int.toNat_of_nonneg hzero
  · intro h
    obtain ⟨recipient, contract, amount, chainId, nonce, gas, maxFee, maxPriorityFee⟩ := t
    obtain ⟨hrecipient, hcontract, hamount, hamountLt, hfee, hfeePos, hfeeLt, htip, htipPos, htipLt, rfl, hgas,
      hchain, hchainPos, hnonce⟩ := h
    simp only at *
    refine ⟨recipient, hrecipient, contract, hcontract, amount, ⟨hamount, hamountLt⟩, maxFee,
      ⟨hfee, hfeePos, hfeeLt⟩, maxPriorityFee, ⟨htip, htipPos, htipLt⟩, gas_pos_iff.2 hgas, one_le_toInt_iff.2 (by omega),
      zero_le_toInt_iff.2 (by omega), ?_⟩
    rw [Int64.toNatClampNeg, Int64.toNatClampNeg, ← hchain, ← hnonce]
    rfl

end Order
end Keyring.Evm
