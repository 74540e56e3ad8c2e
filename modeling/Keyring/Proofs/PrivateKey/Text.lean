import Keyring.Proofs.PrivateKey
import Keyring.Proofs.Wallet.Signer

/-! Which texts are read as private keys. A text that spells a whole key, behind one marker or none and in letters of
either case, is read as that key. But so is one with a second marker, and one that has lost digits is read as a key
as well, as long as they were an even number and 48 are left: zeros stand in for them. -/
namespace Keyring.PrivateKey

/-! ### Bytes and their digits -/

theorem encode_zeros_append (k : Nat) (bs : Bytes) :
    (Hex.encode (List.replicate k 0 ++ bs)).toList = List.replicate (2 * k) '0' ++ (Hex.encode bs).toList := by
  rw [Hex.toList_encode, Hex.toList_encode]
  induction k with
  | zero => rfl
  | succ k ih =>
    rw [List.replicate_succ, List.cons_append, Hex.nibbles_cons, List.map_cons, List.map_cons, ih]
    rfl

theorem encode_injective {bs cs : Bytes} (h : (Hex.encode bs).toList = (Hex.encode cs).toList) : bs = cs := by
  have hdecode := Hex.decode_encode bs
  rw [String.toList_inj.1 h, Hex.decode_encode] at hdecode
  exact (Except.ok.inj hdecode).symm

theorem toList_encode (key : PrivateKey) : key.encode.toList = '0' :: 'x' :: (Hex.encode key.bytes).toList := by
  rw [encode, String.toList_append]
  rfl

/-- A string of bytes is read as the key that has the same bytes behind zeros. -/
theorem ofBytes?_eq_some_iff {bs : Bytes} {key : PrivateKey} :
    ofBytes? bs = some key ↔
      24 ≤ bs.length ∧ bs.length ≤ 32 ∧ key.bytes = List.replicate (32 - bs.length) 0 ++ bs := by
  have hzeros : Bytes.toNat (List.replicate (32 - bs.length) 0 ++ bs) = Bytes.toNat bs :=
    Bytes.toNat_zeros_append (fun z hz => List.eq_of_mem_replicate hz) bs
  rw [ofBytes?]
  split
  · next hlength =>
    have hwidth : (List.replicate (32 - bs.length) 0 ++ bs).length = 32 := by
      rw [List.length_append, List.length_replicate]
      omega
    rw [ofNat?_eq_some_iff]
    constructor
    · intro h
      refine ⟨hlength.1, hlength.2, ?_⟩
      rw [bytes, ← h, ← hzeros, Bytes.ofNat_toNat hwidth]
    · rintro ⟨-, -, h⟩
      rw [← hzeros, ← h, toNat_bytes]
  · next hlength =>
    simp only [reduceCtorEq, false_iff]
    exact fun h => hlength ⟨h.1, h.2.1⟩

/-! ### What is read -/

/-- What is left of a text without the markers that are tolerated in front of it. -/
def digits (s : String) : List Char := (Hex.body s).toList

/-- The text has an even number of digits, 48 to 64, and behind zeros they are those of the key. -/
structure Fills (s : String) (key : PrivateKey) : Prop where
  paired : (digits s).length % 2 = 0
  low : 48 ≤ (digits s).length
  high : (digits s).length ≤ 64
  filled : key.encode.toList =
    '0' :: 'x' :: (List.replicate (64 - (digits s).length) '0' ++ (digits s).map Char.toLower)

/-- Behind one marker or none, the text has in letters of either case what the key is written with. -/
def Whole (s : String) (key : PrivateKey) : Prop :=
  key.encode.toList = '0' :: 'x' :: (Hex.stripMarker s.toList).map Char.toLower

theorem fills_iff {s : String} {key : PrivateKey} :
    Fills s key ↔ ∃ bs, Hex.Spells s bs ∧ 24 ≤ bs.length ∧ bs.length ≤ 32
      ∧ key.bytes = List.replicate (32 - bs.length) 0 ++ bs := by
  constructor
  · rintro ⟨hpaired, hlow, hhigh, hfilled⟩
    rw [toList_encode, List.cons.injEq, List.cons.injEq] at hfilled
    have hfilled := hfilled.2.2
    -- Every character goes into the text of the key, so each is a digit and the pairs are bytes.
    have hdigits : ∀ c ∈ digits s, (Text.digitValue? c).isSome := by
      intro c hc
      have hmem : c.toLower ∈ (Hex.encode key.bytes).toList := by
        rw [hfilled]
        exact List.mem_append_right _ (List.mem_map_of_mem hc)
      rw [Hex.toList_encode] at hmem
      obtain ⟨n, hn, hcn⟩ := List.mem_map.1 hmem
      have hvalue := Hex.digitValue?_eq_some_iff.2 ⟨Hex.lt_of_mem_nibbles hn, hcn.symm⟩
      rw [hvalue, Option.isSome_some]
    obtain ⟨bs, hbs, hspells⟩ := Hex.exists_bytes_of_digits ((digits s).length / 2) (by omega) hdigits
    have hzeros : 64 - (digits s).length = 2 * (32 - bs.length) := by omega
    refine ⟨bs, hspells, by omega, by omega, encode_injective ?_⟩
    rw [hfilled, encode_zeros_append, hspells, hzeros]
  · rintro ⟨bs, hspells, hlow, hhigh, hbytes⟩
    have hlength : (digits s).length = 2 * bs.length := by
      have := congrArg List.length hspells
      rwa [List.length_map, Hex.length_encode] at this
    have hzeros : 64 - (digits s).length = 2 * (32 - bs.length) := by omega
    refine ⟨by omega, by omega, by omega, ?_⟩
    rw [toList_encode, hbytes, encode_zeros_append, hzeros]
    rw [digits, hspells]

theorem parse_eq_ok_iff {s : String} {key : PrivateKey} : parse s = .ok key ↔ Fills s key := by
  rw [fills_iff, parse]
  cases hparse : Hex.parse s with
  | error fault =>
    simp only [reduceCtorEq, false_iff]
    rintro ⟨bs, hspells, -⟩
    rw [Hex.parse_eq_ok_iff.2 hspells] at hparse
    cases hparse
  | ok bs =>
    have hspells := Hex.parse_eq_ok_iff.1 hparse
    have hunique : ∀ {cs}, Hex.Spells s cs → cs = bs := fun hcs =>
      Except.ok.inj ((Hex.parse_eq_ok_iff.2 hcs).symm.trans hparse)
    dsimp only
    constructor
    · intro h
      split at h
      · next read hread =>
        cases h
        exact ⟨bs, hspells, ofBytes?_eq_some_iff.1 hread⟩
      · cases h
    · rintro ⟨cs, hcs, hfills⟩
      obtain rfl := hunique hcs
      rw [ofBytes?_eq_some_iff.2 hfills]

/-! ### Whole keys -/

/-- No marker is among the digits of a key. -/
theorem not_mem_of_map_toLower {cs : List Char} {bs : Bytes} (h : cs.map Char.toLower = (Hex.encode bs).toList) :
    'x' ∉ cs ∧ 'X' ∉ cs := by
  have hno : ∀ c ∈ cs, c.toLower ≠ 'x' := by
    intro c hc heq
    have hmem : 'x' ∈ (Hex.encode bs).toList := by
      rw [← h, ← heq]
      exact List.mem_map_of_mem hc
    exact absurd (Hex.encode_mem hmem) (by decide)
  exact ⟨fun hc => hno _ hc rfl, fun hc => hno _ hc rfl⟩

theorem whole_iff {s : String} {key : PrivateKey} :
    Whole s key ↔ parse s = .ok key ∧ (digits s).length = 64 ∧ digits s = Hex.stripMarker s.toList := by
  have hlength : ((Hex.encode key.bytes).toList).length = 64 := by rw [Hex.length_encode, length_bytes]
  rw [parse_eq_ok_iff]
  constructor
  · intro h
    have hdigits : (Hex.stripMarker s.toList).map Char.toLower = (Hex.encode key.bytes).toList := by
      rw [Whole, toList_encode, List.cons.injEq, List.cons.injEq] at h
      exact h.2.2.symm
    obtain ⟨hsmall, hlarge⟩ := not_mem_of_map_toLower hdigits
    have hbody : digits s = Hex.stripMarker s.toList := by
      rw [digits, Hex.body, String.toList_ofList, Hex.stripAnyMarker_of_not_mem hsmall hlarge]
    have hwidth : (digits s).length = 64 := by
      rw [hbody, ← hlength, ← hdigits, List.length_map]
    refine ⟨⟨by omega, by omega, by omega, ?_⟩, hwidth, hbody⟩
    rw [hwidth, hbody, h]
    rfl
  · rintro ⟨⟨-, -, -, hfilled⟩, hwidth, hbody⟩
    rw [Whole, hfilled, hwidth, hbody]
    rfl

theorem digits_marked {cs : List Char} (hsmall : 'x' ∉ cs) (hlarge : 'X' ∉ cs) {marker : String}
    (hmarker : marker ∈ ["", "0x", "0X"]) : digits (marker ++ String.ofList cs) = cs := by
  have hstrip : Hex.stripAnyMarker (Hex.stripMarker (marker.toList ++ cs)) = cs := by
    simp only [List.mem_cons, List.not_mem_nil, or_false] at hmarker
    rcases hmarker with rfl | rfl | rfl
    · show Hex.stripAnyMarker (Hex.stripMarker cs) = cs
      rw [Hex.stripMarker_of_not_mem hsmall, Hex.stripAnyMarker_of_not_mem hsmall hlarge]
    · show Hex.stripAnyMarker cs = cs
      exact Hex.stripAnyMarker_of_not_mem hsmall hlarge
    · rfl
  rw [digits, Hex.body, String.toList_ofList, String.toList_append, String.toList_ofList, hstrip]

/-- The digits of a key in letters of either case, with a marker or without. -/
theorem parse_marked {key : PrivateKey} {cs : List Char} (h : cs.map Char.toLower = (Hex.encode key.bytes).toList)
    {marker : String} (hmarker : marker ∈ ["", "0x", "0X"]) : parse (marker ++ String.ofList cs) = .ok key := by
  obtain ⟨hsmall, hlarge⟩ := not_mem_of_map_toLower h
  have hspells : Hex.Spells (marker ++ String.ofList cs) key.bytes := by
    rw [Hex.Spells, ← digits, digits_marked hsmall hlarge hmarker, h]
  rw [parse_eq_ok_iff, fills_iff]
  exact ⟨key.bytes, hspells, by simp, by simp, by simp⟩

/-! ### Digits that are lost -/

/-- The text of a key without its last digits. -/
def shortened (key : PrivateKey) (lost : Nat) : String :=
  "0x" ++ String.ofList ((Hex.encode key.bytes).toList.take (64 - lost))

theorem take_encode (bs : Bytes) (k : Nat) :
    (Hex.encode bs).toList.take (2 * k) = (Hex.encode (bs.take k)).toList := by
  rw [Hex.toList_encode, Hex.toList_encode, ← List.map_take]
  congr 1
  induction bs generalizing k with
  | nil => simp
  | cons b bs ih =>
    cases k with
    | zero => simp
    | succ k => simp [Nat.mul_succ, ih]

theorem toNat_take (bs : Bytes) (k : Nat) : Bytes.toNat (bs.take k) = Bytes.toNat bs / 256 ^ (bs.length - k) := by
  have hlow := Bytes.toNat_lt (bs.drop k)
  rw [List.length_drop] at hlow
  have hsplit : Bytes.toNat bs = 256 ^ (bs.length - k) * Bytes.toNat (bs.take k) + Bytes.toNat (bs.drop k) := by
    rw [Nat.mul_comm, ← List.length_drop, ← Bytes.toNat_append, List.take_append_drop]
  rw [hsplit, Nat.mul_add_div (Nat.pow_pos (by decide)), Nat.div_eq_of_lt hlow, Nat.add_zero]

theorem digits_shortened (key : PrivateKey) (lost : Nat) :
    digits (key.shortened lost) = (Hex.encode key.bytes).toList.take (64 - lost) := by
  have hno {c : Char} (hc : c ∉ "0123456789abcdef".toList) : c ∉ (Hex.encode key.bytes).toList.take (64 - lost) :=
    fun h => hc (Hex.encode_mem (List.mem_of_mem_take h))
  rw [shortened, digits_marked (hno (by decide)) (hno (by decide)) (by simp)]

/-- Digits that are lost from the end of a key are noticed if they are odd in number or more than 16. Otherwise
another key is read. -/
theorem parse_shortened {key read : PrivateKey} {lost : Nat} :
    parse (key.shortened lost) = .ok read ↔ lost % 2 = 0 ∧ lost ≤ 16 ∧ read.scalar = key.scalar / 16 ^ lost := by
  have hlength : (digits (key.shortened lost)).length = 64 - lost := by
    rw [digits_shortened, List.length_take, Hex.length_encode, length_bytes]
    omega
  by_cases hlost : lost % 2 = 0 ∧ lost ≤ 16
  · obtain ⟨k, rfl⟩ : ∃ k, lost = 2 * k := ⟨lost / 2, by omega⟩
    have hwidth : 64 - 2 * k = 2 * (32 - k) := by omega
    have hspells : Hex.Spells (key.shortened (2 * k)) (key.bytes.take (32 - k)) := by
      rw [Hex.Spells, ← digits, digits_shortened, hwidth, take_encode, Hex.map_toLower_encode]
    have hscalar : Bytes.toNat (key.bytes.take (32 - k)) = key.scalar / 16 ^ (2 * k) := by
      rw [toNat_take, toNat_bytes, length_bytes, Nat.pow_mul, show 32 - (32 - k) = k by omega]
    rw [parse, Hex.parse_eq_ok_iff.2 hspells]
    have hrange : 24 ≤ (key.bytes.take (32 - k)).length ∧ (key.bytes.take (32 - k)).length ≤ 32 := by
      rw [List.length_take, length_bytes]
      omega
    dsimp only
    rw [ofBytes?, if_pos hrange, hscalar]
    have hread := @ofNat?_eq_some_iff (key.scalar / 16 ^ (2 * k)) read
    cases hof : ofNat? (key.scalar / 16 ^ (2 * k)) with
    | none =>
      rw [hof] at hread
      simp only [reduceCtorEq, false_iff] at hread ⊢
      exact fun h => hread h.2.2.symm
    | some key' =>
      rw [hof, Option.some.injEq] at hread
      rw [Except.ok.injEq, hread]
      exact ⟨fun h => ⟨hlost.1, hlost.2, h.symm⟩, fun h => h.2.2.symm⟩
  · constructor
    · intro h
      have hfills := parse_eq_ok_iff.1 h
      have hpaired := hfills.paired
      have hlow := hfills.low
      exact absurd ⟨by omega, by omega⟩ hlost
    · rintro ⟨hpaired, hhigh, -⟩
      exact absurd ⟨hpaired, hhigh⟩ hlost

/-! ### What a stored text can stand for -/

/-- A text is read if and only if it fills a key, and any other is refused. It is read as what it spells when it has all
the digits and one marker at most, and so are the digits of any key in letters of either case. But with a second marker,
or with fewer digits, a text can be read as a key that it does not spell: a key that has lost up to 16 digits in pairs
is read as the one that the others make up. -/
theorem parse_spelled (s : String) (key : PrivateKey) :
    (parse s = .ok key ↔ Fills s key)
    ∧ ((∀ key, ¬ Fills s key) → ∃ fault, parse s = .error (.invalidPrivateKey fault))
    ∧ (Whole s key ↔ parse s = .ok key ∧ (digits s).length = 64 ∧ digits s = Hex.stripMarker s.toList)
    ∧ (∀ (cs : List Char) (marker : String), cs.map Char.toLower = (Hex.encode key.bytes).toList →
      marker ∈ ["", "0x", "0X"] → parse (marker ++ String.ofList cs) = .ok key)
    ∧ ∀ read lost, parse (key.shortened lost) = .ok read ↔
        lost % 2 = 0 ∧ lost ≤ 16 ∧ read.scalar = key.scalar / 16 ^ lost := by
  refine ⟨parse_eq_ok_iff, fun hnone => ?_, whole_iff, fun cs marker h => parse_marked h, fun read lost =>
    parse_shortened⟩
  cases hparse : parse s with
  | ok read => exact absurd (parse_eq_ok_iff.1 hparse) (hnone read)
  | error e =>
    obtain ⟨fault, rfl⟩ := parse_eq_error hparse
    exact ⟨fault, rfl⟩

namespace Clipped

def key : PrivateKey :=
  (ofNat? 0x0101010101010101010101010101010101010101010101010101010101010101).get (by decide)

/-- What is left of the key when it loses 16 digits. -/
def rest : PrivateKey := (ofNat? 0x010101010101010101010101010101010101010101010101).get (by decide)

end Clipped

/-- The clipped text of a key is read as a different key, and its text with a second marker as the key. -/
theorem clipped_read :
    parse "0x010101010101010101010101010101010101010101010101" = .ok Clipped.rest
    ∧ Clipped.key.shortened 16 = "0x010101010101010101010101010101010101010101010101" ∧ Clipped.rest ≠ Clipped.key
    ∧ ¬ Whole "0x010101010101010101010101010101010101010101010101" Clipped.rest
    ∧ parse "0x0x0101010101010101010101010101010101010101010101010101010101010101" = .ok Clipped.key
    ∧ ¬ Whole "0x0x0101010101010101010101010101010101010101010101010101010101010101" Clipped.key := by
  unfold Whole
  decide

theorem parse_spelled_clipped :
    (∃ fault, parse "0xnothex" = .error (.invalidPrivateKey fault))
    ∧ parse "0X0101010101010101010101010101010101010101010101010101010101010101" = .ok Clipped.key
    ∧ parse (Clipped.key.shortened 16) = .ok Clipped.rest := by
  obtain ⟨-, hrefused, -, hmarked, hshortened⟩ := parse_spelled "0xnothex" Clipped.key
  refine ⟨hrefused fun key hfills => ?_, ?_, ?_⟩
  · exact absurd hfills.low (by decide)
  · exact hmarked "0101010101010101010101010101010101010101010101010101010101010101".toList "0X" (by decide) (by decide)
  · exact (hshortened Clipped.rest 16).2 ⟨by decide, by decide, by decide⟩

end Keyring.PrivateKey
