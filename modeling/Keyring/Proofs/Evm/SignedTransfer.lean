import Keyring.Proofs.Evm.Envelope
import Keyring.Proofs.Evm.Order
import Keyring.Proofs.PrivateKey
import Keyring.Proofs.Secp256k1.Signature

/-! What a signed transfer says. The text that answers an order is read back, by the strict reader, to exactly the
payment that the order asks for, field by field, and to a signature of these same fields under the key of the
wallet; and every such text is an answer. -/
namespace Keyring.Evm

open Secp256k1

/-! ### The payment of an order -/

namespace Order

/-- Coins go to the recipient without a call. Tokens are moved by a call to their contract that carries no value:
four bytes that select the transfer, the recipient behind twelve zeros, and the amount in 32 bytes. -/
def Pays (o : Order) (tx : Transaction) : Prop :=
  match o.kind with
  | .coin =>
      tx.recipient.NamedBy o.recipient ∧ (Amount.Spells o.amount tx.value ∧ tx.value < 2 ^ 256) ∧ tx.data = []
  | .token => ∃ (contract : String) (recipient : Account) (amount : Nat),
      o.contract = some contract ∧ tx.recipient.NamedBy contract ∧ recipient.NamedBy o.recipient ∧
      (Amount.Spells o.amount amount ∧ amount < 2 ^ 256) ∧ tx.value = 0 ∧
      tx.data = [0xa9, 0x05, 0x9c, 0xbb] ++ (List.replicate 12 0 ++ recipient.bytes ++ Bytes.ofNat 32 amount)

structure AsksFor (o : Order) (tx : Transaction) : Prop where
  chainId : (tx.chainId : Int) = o.network.toInt
  chainId_pos : 0 < tx.chainId
  nonce : (tx.nonce : Int) = o.nonce.toInt
  maxPriorityFee : Amount.Spells o.maxPriorityFee tx.maxPriorityFee
  maxPriorityFee_pos : 0 < tx.maxPriorityFee
  maxPriorityFee_lt : tx.maxPriorityFee < 2 ^ 128
  maxFee : Amount.Spells o.maxFee tx.maxFee
  maxFee_pos : 0 < tx.maxFee
  maxFee_lt : tx.maxFee < 2 ^ 128
  gas : tx.gas = o.gas.toNat
  gas_pos : 0 < tx.gas
  payment : o.Pays tx

theorem asksFor_of_standsFor {o : Order} {t : Transfer} (h : o.StandsFor t) : o.AsksFor t.transaction := by
  obtain ⟨recipient, contract, amount, chainId, nonce, gas, maxFee, maxPriorityFee⟩ := t
  obtain ⟨hrecipient, hcontract, hamount, hamountLt, hfee, hfeePos, hfeeLt, htip, htipPos, htipLt, hgas, hgasPos,
    hchain, hchainPos, hnonce⟩ := h
  unfold Contracts at hcontract
  cases hkind : o.kind with
  | coin =>
    simp only [hkind] at hcontract
    subst hcontract
    refine ⟨hchain, hchainPos, hnonce, htip, htipPos, htipLt, hfee, hfeePos, hfeeLt, hgas, hgasPos, ?_⟩
    simp only [Pays, hkind]
    exact ⟨hrecipient, ⟨hamount, hamountLt⟩, rfl⟩
  | token =>
    simp only [hkind] at hcontract
    obtain ⟨s, a, hs, ha, rfl⟩ := hcontract
    refine ⟨hchain, hchainPos, hnonce, htip, htipPos, htipLt, hfee, hfeePos, hfeeLt, hgas, hgasPos, ?_⟩
    simp only [Pays, hkind]
    exact ⟨s, recipient, amount, hs, ha, hrecipient, ⟨hamount, hamountLt⟩, rfl, rfl⟩

theorem exists_standsFor_of_asksFor {o : Order} {tx : Transaction} (h : o.AsksFor tx) :
    ∃ t, o.StandsFor t ∧ t.transaction = tx := by
  obtain ⟨hchain, hchainPos, hnonce, htip, htipPos, htipLt, hfee, hfeePos, hfeeLt, hgas, hgasPos, hpays⟩ := h
  obtain ⟨chainId, nonce, maxPriorityFee, maxFee, gas, payee, value, data⟩ := tx
  cases hkind : o.kind with
  | coin =>
    simp only [Pays, hkind] at hpays
    obtain ⟨hto, ⟨hvalue, hvalueLt⟩, rfl⟩ := hpays
    refine ⟨⟨payee, none, value, chainId, nonce, gas, maxFee, maxPriorityFee⟩,
      ⟨hto, ?_, hvalue, hvalueLt, hfee, hfeePos, hfeeLt, htip, htipPos, htipLt, hgas, hgasPos, hchain, hchainPos, hnonce⟩, rfl⟩
    simp only [Contracts, hkind]
  | token =>
    simp only [Pays, hkind] at hpays
    obtain ⟨s, recipient, amount, hs, hto, hrecipient, ⟨hamount, hamountLt⟩, rfl, rfl⟩ := hpays
    refine ⟨⟨recipient, some payee, amount, chainId, nonce, gas, maxFee, maxPriorityFee⟩, ⟨hrecipient, ?_, hamount,
      hamountLt, hfee, hfeePos, hfeeLt, htip, htipPos, htipLt, hgas, hgasPos, hchain, hchainPos, hnonce⟩, rfl⟩
    simp only [Contracts, hkind]
    exact ⟨s, payee, hs, hto, rfl⟩

theorem AsksFor.fits {o : Order} {tx : Transaction} (h : o.AsksFor tx) : tx.Fits := by
  have hnetwork := o.network.toInt_lt
  have hnonce := o.nonce.toInt_lt
  have hgas := o.gas.toNat_lt
  have hpays := h.payment
  have hvalue : tx.value < 2 ^ 256 ∧ tx.data.length ≤ 68 := by
    unfold Pays at hpays
    split at hpays
    · obtain ⟨-, ⟨-, hlt⟩, hdata⟩ := hpays
      exact ⟨hlt, by simp [hdata]⟩
    · obtain ⟨-, recipient, amount, -, -, -, -, hvalue, hdata⟩ := hpays
      simp [hvalue, hdata]
  refine ⟨?_, ?_, ?_, ?_, ?_, ?_, hvalue.2⟩
  · have := h.chainId
    omega
  · have := h.nonce
    omega
  · have := h.maxPriorityFee_lt
    omega
  · have := h.maxFee_lt
    omega
  · have := h.gas
    omega
  · omega

end Order

/-! ### The signature -/

theorem lt_of_sign {key : PrivateKey} {digest : Bytes} {sig : Signature} (h : key.sign digest = .ok sig) :
    sig.r < 256 ^ 32 ∧ sig.s < 256 ^ 32 := by
  rw [PrivateKey.sign, Error.ifNone_eq_ok_iff, sign?, Option.bind_eq_some_iff] at h
  obtain ⟨k, -, hsig⟩ := h
  have := Signature.bounds_of_ofNonce? hsig
  have := order_lt
  omega

/-! ### The answer to an order -/

theorem sign_eq_ok_iff {tx : Transaction} {key : PrivateKey} {bs : Bytes} :
    tx.sign key = .ok bs ↔ ∃ sig, key.sign (keccak256 tx.preimage) = .ok sig ∧ tx.signed sig = bs := by
  rw [Transaction.sign]
  cases key.sign (keccak256 tx.preimage) <;> simp [Except.map]

/-- A text answers an order of the wallet's chain just when it is `0x` and the small digits of bytes that the strict
reader takes for the payment the order asks for, signed with the wallet's key: the digest signed is that of the type
byte and the list of the nine fields. -/
theorem transact_eq_ok_iff (c : Chain) (w : Wallet) (o : Order) (text : String) :
    transact c w o = .ok text ↔
      w.chain = c ∧ ∃ (bs : Bytes) (tx : Transaction) (key : PrivateKey) (sig : Signature),
        text = "0x" ++ Hex.encode bs ∧ (∀ d ∈ (Hex.encode bs).toList, d ∈ "0123456789abcdef".toList) ∧
        Transaction.ofSigned? bs = some ⟨tx, if sig.odd then 1 else 0, sig.r, sig.s⟩ ∧ o.AsksFor tx ∧
        PrivateKey.parse w.privateKey = .ok key ∧
        key.sign (keccak256 (2 :: (Rlp.list tx.fields).encode)) = .ok sig := by
  simp only [transact, guard_eq_ok_iff, bind_eq_ok_iff, Order.check_eq_ok_iff, sign_eq_ok_iff, ne_eq,
    Decidable.not_not]
  refine and_congr_right fun _ => ?_
  constructor
  · rintro ⟨t, ht, key, hkey, bs, ⟨sig, hsig, rfl⟩, htext⟩
    cases htext
    have hasks := Order.asksFor_of_standsFor ht
    obtain ⟨hr, hs⟩ := lt_of_sign hsig
    exact ⟨_, t.transaction, key, sig, rfl, fun _ => Hex.encode_mem,
      Transaction.ofSigned?_envelope hasks.fits (Transaction.parity_lt sig) hr hs, hasks, hkey, hsig⟩
  · rintro ⟨bs, tx, key, sig, rfl, -, hread, hasks, hkey, hsig⟩
    obtain ⟨t, ht, rfl⟩ := Order.exists_standsFor_of_asksFor hasks
    rw [Transaction.eq_envelope_of_ofSigned? hread]
    exact ⟨t, ht, key, hkey, _, ⟨sig, hsig, rfl⟩, rfl⟩

end Keyring.Evm
