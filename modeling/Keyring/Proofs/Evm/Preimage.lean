import Keyring.Proofs.Evm.Verdict
import Keyring.Proofs.Secp256k1.Recovery
import Keyring.Proofs.Token

/-! What is hashed for a signature determines the transfer. The fields are read back from the encoded list, so no two
of them can trade bytes, and a call that moves tokens is never empty, so it is no transfer of coins. -/
namespace Keyring

open Secp256k1

namespace Evm

theorem Rlp.encodeItems_append (xs ys : List Rlp) : encodeItems (xs ++ ys) = encodeItems xs ++ encodeItems ys := by
  induction xs with
  | nil => rfl
  | cons x xs ih => rw [List.cons_append, encodeItems, encodeItems, ih, List.append_assoc]

/-! ### Transactions -/

namespace Transaction

theorem fields_injective : Function.Injective fields := by
  intro tx tx' h
  have hread := ofFields?_fields tx 0 0 0
  rw [h, ofFields?_fields] at hread
  simpa using hread.symm

theorem length_items {tx : Transaction} (h : tx.Fits) : (Rlp.encodeItems tx.fields).length ≤ 600 := by
  have hsigned := length_signed_items (p := 0) (r := 0) (s := 0) h (by decide) (by decide) (by decide)
  rw [Rlp.encodeItems_append, List.length_append] at hsigned
  omega

theorem preimage_inj {tx tx' : Transaction} (h : tx.Fits) (h' : tx'.Fits) : tx.preimage = tx'.preimage ↔ tx = tx' := by
  constructor
  · intro heq
    have hlist : (Rlp.list tx.fields).encode = (Rlp.list tx'.fields).encode := List.tail_eq_of_cons_eq heq
    have hlength := length_encode_list_le tx.fields (by have := length_items h; omega)
    have hlength' := length_encode_list_le tx'.fields (by have := length_items h'; omega)
    have hread := Rlp.decode?_encode (.list tx.fields) (by have := length_items h; omega)
    rw [hlist, Rlp.decode?_encode (.list tx'.fields) (by have := length_items h'; omega)] at hread
    simp only [Option.some.injEq, Rlp.list.injEq] at hread
    exact fields_injective hread.symm
  · rintro rfl
    rfl

end Transaction

/-! ### Transfers -/

theorem transferData_inj {a b : Account} {m n : Nat} (hm : m < 2 ^ 256) (hn : n < 2 ^ 256) :
    Token.transferData a m = Token.transferData b n ↔ a = b ∧ m = n := by
  rw [Token.transferData, Token.transferData, List.append_cancel_left_eq, Token.arguments_inj hm hn]

theorem Transfer.transaction_inj {t u : Transfer} (ht : t.amount < 2 ^ 256) (hu : u.amount < 2 ^ 256) :
    t.transaction = u.transaction ↔ t = u := by
  constructor
  · intro h
    obtain ⟨recipient, contract, amount, chainId, nonce, gas, maxFee, maxPriorityFee⟩ := t
    obtain ⟨recipient', contract', amount', chainId', nonce', gas', maxFee', maxPriorityFee'⟩ := u
    cases contract with
    | none =>
      cases contract' with
      | none =>
        simp only [transaction, Transaction.mk.injEq] at h
        simp [h]
      | some c' => simp [transaction, Token.transferData, Token.selector] at h
    | some c =>
      cases contract' with
      | none => simp [transaction, Token.transferData, Token.selector] at h
      | some c' =>
        simp only [transaction, Transaction.mk.injEq, transferData_inj ht hu] at h
        simp [h]
  · rintro rfl
    rfl

namespace Order

theorem StandsFor.fits {o : Order} {t : Transfer} (h : o.StandsFor t) : t.transaction.Fits :=
  (asksFor_of_standsFor h).fits

theorem kind_eq_of_contracts {p q : Order} {contract : Option Account} (hp : p.Contracts contract)
    (hq : q.Contracts contract) : p.kind = q.kind := by
  unfold Contracts at hp hq
  split at hp
  · next hkind =>
    subst hp
    split at hq
    · next hkind' => rw [hkind, hkind']
    · obtain ⟨_, _, _, _, h⟩ := hq
      cases h
  · next hkind =>
    obtain ⟨_, a, _, _, rfl⟩ := hp
    split at hq
    · cases hq
    · next hkind' => rw [hkind, hkind']

theorem spells_alike {s s' : String} {n : Nat} (h : Amount.Spells s n) (h' : Amount.Spells s' n) : Amount.Alike s s' :=
  fun _ => ⟨fun hm => hm.unique h ▸ h', fun hm => hm.unique h' ▸ h⟩

/-- Orders for one transfer say the same. -/
theorem StandsFor.alike {p q : Order} {t : Transfer} (hp : p.StandsFor t) (hq : q.StandsFor t) : p.Alike q where
  kind := kind_eq_of_contracts hp.contract hq.contract
  recipient _ := ⟨fun ha => ha.unique hp.recipient ▸ hq.recipient, fun ha => ha.unique hq.recipient ▸ hp.recipient⟩
  contract hkind a := by
    have hkind' := kind_eq_of_contracts hp.contract hq.contract ▸ hkind
    have hpcontract := hp.contract
    have hqcontract := hq.contract
    simp only [Contracts, hkind, hkind'] at hpcontract hqcontract
    obtain ⟨s, b, hs, hb, hcontract⟩ := hpcontract
    obtain ⟨s', b', hs', hb', hcontract'⟩ := hqcontract
    obtain rfl : b = b' := Option.some.inj (hcontract.symm.trans hcontract')
    simp only [hs, hs', Option.some.injEq, exists_eq_left']
    exact ⟨fun ha => ha.unique hb ▸ hb', fun ha => ha.unique hb' ▸ hb⟩
  amount := spells_alike hp.amount hq.amount
  maxFee := spells_alike hp.maxFee hq.maxFee
  maxPriorityFee := spells_alike hp.maxPriorityFee hq.maxPriorityFee
  gas := UInt64.toNat_inj.1 (hp.gas.symm.trans hq.gas)
  network := Int64.toInt_inj.1 (hp.chainId.symm.trans hq.chainId)
  nonce := Int64.toInt_inj.1 (hp.nonce.symm.trans hq.nonce)

end Order

/-- Two byte strings whose digests are equal as the scalars that are signed. -/
def Collide (m m' : Bytes) : Prop :=
  m ≠ m' ∧ Bytes.toNat (keccak256 m) % order = Bytes.toNat (keccak256 m') % order

/-- What is hashed for the signature of an order determines the transfer, and so what the order says. A signature that
gives one public key back for two orders that do not say the same comes with a collision of the digest. -/
theorem preimage_determines :
    (∀ (p q : Order) (t u : Transfer), p.check = .ok t → q.check = .ok u →
      (t.transaction.preimage = u.transaction.preimage ↔ t = u) ∧ (t = u ↔ p.Alike q))
    ∧ ∀ (p q : Order) (t u : Transfer) (point : Point) (r s v : Nat), p.check = .ok t → q.check = .ok u →
      Attests point (Bytes.toNat (keccak256 t.transaction.preimage)) r s v →
      Attests point (Bytes.toNat (keccak256 u.transaction.preimage)) r s v →
      p.Alike q ∨ Collide t.transaction.preimage u.transaction.preimage := by
  have hdetermines (p q : Order) (t u : Transfer) (hp : p.check = .ok t) (hq : q.check = .ok u) :
      (t.transaction.preimage = u.transaction.preimage ↔ t = u) ∧ (t = u ↔ p.Alike q) := by
    have hpstands := Order.check_eq_ok_iff.1 hp
    have hqstands := Order.check_eq_ok_iff.1 hq
    constructor
    · rw [Transaction.preimage_inj hpstands.fits hqstands.fits,
        Transfer.transaction_inj hpstands.amount_lt hqstands.amount_lt]
    · constructor
      · rintro rfl
        exact hpstands.alike hqstands
      · intro halike
        rw [halike.check, hq] at hp
        exact (Except.ok.inj hp).symm
  refine ⟨hdetermines, ?_⟩
  intro p q t u point r s v hp hq ht hu
  obtain ⟨hpreimage, htransfer⟩ := hdetermines p q t u hp hq
  by_cases halike : p.Alike q
  · exact .inl halike
  · refine .inr ⟨fun heq => halike (htransfer.1 (hpreimage.1 heq)), ?_⟩
    refine Signature.digest_eq_of_recover? ?_ ?_ ht.recover hu.recover
    · exact ht.r_pos
    · exact ht.r_lt

/-- The sample and the same order with zeros in front of its amount: one signature serves both. -/
theorem preimage_determines_sample :
    Sample.order.Alike { Sample.order with amount := "007" }
    ∧ ∃ r s v, Attests Sample.key.point (Bytes.toNat (keccak256 Sample.transfer.transaction.preimage)) r s v
      ∧ (Sample.order.Alike { Sample.order with amount := "007" }
        ∨ Collide Sample.transfer.transaction.preimage Sample.transfer.transaction.preimage) := by
  obtain ⟨hdetermines, hreuse⟩ := preimage_determines
  have hpadded : { Sample.order with amount := "007" }.check = .ok Sample.transfer := by decide
  refine ⟨(hdetermines _ _ _ _ Sample.check_order hpadded).2.1 rfl, ?_⟩
  obtain ⟨sig, hsig, hwrapped⟩ := signable_iff.1 Sample.signable
  have hattests := attests_of_sign? Sample.key.lt_order hsig hwrapped
  rw [← Sample.digest_eq] at hattests
  exact ⟨_, _, _, hattests, hreuse _ _ _ _ _ _ _ _ Sample.check_order hpadded hattests hattests⟩

end Evm
end Keyring
