import Keyring.Address
import Keyring.Proofs.Base58

/-! The patterns of addresses and the texts that bytes have in base 58. Such a text has symbols only; its first
character and its length, which the patterns also look at, follow from the bytes in front. -/
namespace Keyring.Address

theorem isSymbol_digit : ∀ n < 58, isSymbol (Base58.digit n) = true := by decide

theorem isSymbol_of_mem_encode {bs : Bytes} {c : Char} (h : c ∈ (Base58.encode bs).toList) : isSymbol c = true := by
  rw [Base58.toList_encode] at h
  obtain ⟨d, hd, rfl⟩ := List.mem_map.1 h
  exact isSymbol_digit d (Base58.lt_of_mem_digits hd)

theorem isTron_iff {s : String} :
    isTron s = true ↔ ∃ cs, s.toList = 'T' :: cs ∧ cs.length = 33 ∧ ∀ c ∈ cs, isSymbol c = true := by
  rw [isTron]
  split
  · next rest hs => simp [hs]
  · next hne =>
    simp only [Bool.false_eq_true, false_iff]
    rintro ⟨cs, hs, -⟩
    exact hne cs hs

theorem isBitcoin_of_one {s : String} {cs : List Char} (hs : s.toList = '1' :: cs) (hlow : 25 ≤ cs.length)
    (hhigh : cs.length ≤ 39) (hcs : ∀ c ∈ cs, isSymbol c = true) : isBitcoin s = true := by
  simp only [isBitcoin, hs, isBitcoinTail, Bool.and_eq_true, decide_eq_true_eq, List.all_eq_true]
  exact ⟨⟨hlow, hhigh⟩, hcs⟩

/-- Behind the byte `0x41`, 24 bytes of any kind make a number between `26 * 58 ^ 33` and `27 * 58 ^ 33`. It has 34
digits, and the first is `T`. -/
theorem isTron_encode {rest : Bytes} (h : rest.length = 24) : isTron (Base58.encode (0x41 :: rest)) = true := by
  have hlow : 26 * 58 ^ 33 ≤ 0x41 * 256 ^ 24 := by decide
  have hhigh : (0x41 + 1) * 256 ^ 24 ≤ (26 + 1) * 58 ^ 33 := by decide
  have hnumber : Bytes.toNat (0x41 :: rest) = 0x41 * 256 ^ 24 + Bytes.toNat rest := by
    rw [Bytes.toNat_cons, h]
    rfl
  have hrest := Bytes.toNat_lt rest
  rw [h] at hrest
  obtain ⟨cs, hcs, hlength⟩ := Base58.numeral_eq_cons (n := Bytes.toNat (0x41 :: rest)) (d := 26) (k := 33)
    (by decide) (by decide) (by omega) (by omega)
  have htext : (Base58.encode (0x41 :: rest)).toList = 'T' :: cs := by
    rw [Base58.encode, String.toList_ofList, hcs]
    rfl
  refine isTron_iff.2 ⟨cs, htext, hlength, fun c hc => ?_⟩
  have hmem : c ∈ (Base58.encode (0x41 :: rest)).toList := by
    rw [htext]
    exact List.mem_cons_of_mem _ hc
  exact isSymbol_of_mem_encode hmem

end Keyring.Address
