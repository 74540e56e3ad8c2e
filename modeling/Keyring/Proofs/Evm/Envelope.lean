import Keyring.Evm.Transaction
import Keyring.Proofs.Evm.Rlp

/-! Signed transactions as bytes. A transaction whose numbers keep to 256 bits is read back from its envelope
together with the signature, and bytes that are read as a signed transaction are its envelope. -/
namespace Keyring.Evm

open Secp256k1

/-! ### Sizes -/

theorem Rlp.length_encodeString_le (bs : Bytes) (h : bs.length < 256 ^ 8) :
    (encodeString bs).length ≤ bs.length + 9 := by
  by_cases h1 : bs.length = 1
  · obtain ⟨b, rfl⟩ := List.length_eq_one_iff.1 h1
    simp only [encodeString]
    split <;> simp
  · rw [encodeString_of_ne bs h1, List.length_append, head]
    split
    · simp
      omega
    · have := Bytes.length_minimal_le h
      simp only [List.length_cons]
      omega

theorem Rlp.length_encode_nat_le {n : Nat} (h : n < 256 ^ 32) : (encode (nat n)).length ≤ 41 := by
  have hlen := Bytes.length_minimal_le h
  have := length_encodeString_le (Bytes.minimal n) (by omega)
  rw [nat, encode]
  omega

namespace Transaction

/-- Every number has 256 bits at most, and the data is no longer than a call that moves tokens. -/
structure Fits (tx : Transaction) : Prop where
  chainId : tx.chainId < 256 ^ 32
  nonce : tx.nonce < 256 ^ 32
  maxPriorityFee : tx.maxPriorityFee < 256 ^ 32
  maxFee : tx.maxFee < 256 ^ 32
  gas : tx.gas < 256 ^ 32
  value : tx.value < 256 ^ 32
  data : tx.data.length ≤ 68

theorem parity_lt (sig : Signature) : parity sig < 256 ^ 32 := by
  rw [parity]
  split <;> decide

theorem length_signed_items {tx : Transaction} {p r s : Nat} (h : tx.Fits) (hp : p < 256 ^ 32) (hr : r < 256 ^ 32)
    (hs : s < 256 ^ 32) :
    (Rlp.encodeItems (tx.fields ++ [.nat p, .nat r, .nat s])).length ≤ 600 := by
  have hrecipient := Rlp.length_encodeString_le tx.recipient.bytes (by simp)
  have hdata := Rlp.length_encodeString_le tx.data (by have := h.data; omega)
  have hlist : (Rlp.encode (.list [])).length = 1 := by decide
  have := Rlp.length_encode_nat_le h.chainId
  have := Rlp.length_encode_nat_le h.nonce
  have := Rlp.length_encode_nat_le h.maxPriorityFee
  have := Rlp.length_encode_nat_le h.maxFee
  have := Rlp.length_encode_nat_le h.gas
  have := Rlp.length_encode_nat_le h.value
  have := Rlp.length_encode_nat_le hp
  have := Rlp.length_encode_nat_le hr
  have := Rlp.length_encode_nat_le hs
  have := h.data
  have := tx.recipient.length_bytes
  simp only [fields, List.cons_append, List.nil_append, Rlp.encodeItems, List.length_append, List.length_nil,
    Rlp.encode.eq_1, hlist]
  omega

theorem length_encode_list_le (items : List Rlp) (h : (Rlp.encodeItems items).length < 256 ^ 8) :
    (Rlp.encode (.list items)).length ≤ (Rlp.encodeItems items).length + 9 := by
  rw [Rlp.encode, List.length_append, Rlp.head]
  split
  · simp
    omega
  · have := Bytes.length_minimal_le h
    simp only [List.length_cons]
    omega

/-! ### Fields -/

theorem ofFields?_fields (tx : Transaction) (p r s : Nat) :
    ofFields? (tx.fields ++ [.nat p, .nat r, .nat s]) = some ⟨tx, p, r, s⟩ := by
  simp [fields, ofFields?]

theorem eq_fields_of_ofFields? {items : List Rlp} {tx : Transaction} {p r s : Nat}
    (h : ofFields? items = some ⟨tx, p, r, s⟩) : items = tx.fields ++ [.nat p, .nat r, .nat s] := by
  unfold ofFields? at h
  split at h
  · simp only [Option.bind_eq_bind, Option.bind_eq_some_iff] at h
    obtain ⟨chainId, hchainId, nonce, hnonce, tip, htip, fee, hfee, gas, hgas, value, hvalue,
      p', hp, r', hr, s', hs,
      h⟩ := h
    split at h
    · cases h
      rw [Rlp.eq_nat_of_toNat? hchainId, Rlp.eq_nat_of_toNat? hnonce, Rlp.eq_nat_of_toNat? htip,
        Rlp.eq_nat_of_toNat? hfee, Rlp.eq_nat_of_toNat? hgas, Rlp.eq_nat_of_toNat? hvalue, Rlp.eq_nat_of_toNat? hp,
        Rlp.eq_nat_of_toNat? hr, Rlp.eq_nat_of_toNat? hs]
      rfl
    · cases h
  · cases h

/-! ### Envelopes -/

theorem ofSigned?_envelope {tx : Transaction} {p r s : Nat} (h : tx.Fits) (hp : p < 256 ^ 32) (hr : r < 256 ^ 32)
    (hs : s < 256 ^ 32) : ofSigned? (envelope (tx.fields ++ [.nat p, .nat r, .nat s])) = some ⟨tx, p, r, s⟩ := by
  have hitems := length_signed_items h hp hr hs
  have hlist := length_encode_list_le (tx.fields ++ [.nat p, .nat r, .nat s]) (by omega)
  rw [envelope, ofSigned?, Rlp.decode?_encode _ (by omega)]
  exact ofFields?_fields tx p r s

theorem eq_envelope_of_ofSigned? {bs : Bytes} {tx : Transaction} {p r s : Nat}
    (h : ofSigned? bs = some ⟨tx, p, r, s⟩) : bs = envelope (tx.fields ++ [.nat p, .nat r, .nat s]) := by
  unfold ofSigned? at h
  split at h
  · split at h
    · next hdecode =>
      rw [envelope, ← eq_fields_of_ofFields? h, Rlp.encode_of_decode? hdecode]
    · cases h
  · cases h

end Transaction
end Keyring.Evm
