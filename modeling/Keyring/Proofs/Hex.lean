import Keyring.Hex
import Keyring.Text.Numeral

/-! Hexadecimal text read back. A text spells bytes if and only if, in small letters, it is the text that the bytes
are written with; so no text spells two byte strings, and the case of its letters is the only freedom left. -/
namespace Keyring.Hex

/-! ### Digits -/

theorem toNat_digit {n : Nat} (h : n < 16) : (digit n).toNat = if n < 10 then 48 + n else 87 + n := by
  have : ∀ n < 16, (digit n).toNat = if n < 10 then 48 + n else 87 + n := by decide
  exact this n h

theorem digit_mem {n : Nat} (h : n < 16) : digit n ∈ "0123456789abcdef".toList := by
  have : ∀ n < 16, digit n ∈ "0123456789abcdef".toList := by decide
  exact this n h

theorem digitValue?_of_ascii :
    ∀ k < 128, ∀ n < 16, Text.digitValue? (Char.ofNat k) = some n ↔ (Char.ofNat k).toLower = digit n := by
  decide +kernel

theorem digitValue?_lt {c : Char} {n : Nat} (h : Text.digitValue? c = some n) : n < 16 := by
  simp only [Text.digitValue?, Char.le_def, UInt32.le_iff_toNat_le] at h
  split at h
  · next hc =>
    cases h
    have : c.toNat ≤ 57 := hc.2
    omega
  · split at h
    · next hc =>
      cases h
      have : c.toNat ≤ 102 := hc.2
      omega
    · split at h
      · next hc =>
        cases h
        have : c.toNat ≤ 70 := hc.2
        omega
      · cases h

theorem digitValue?_of_not_ascii {c : Char} (h : 128 ≤ c.toNat) : Text.digitValue? c = none := by
  have hle (d : Char) (hd : d.toNat < 128) : ¬ c ≤ d := by
    intro hc
    have : c.toNat ≤ d.toNat := hc
    omega
  simp [Text.digitValue?, hle]

theorem toLower_of_not_ascii {c : Char} (h : 128 ≤ c.toNat) : c.toLower = c := by
  refine dif_neg ?_
  rintro ⟨-, hc⟩
  have : c.toNat ≤ 90 := hc
  omega

/-- A digit is read as the number that its small form is written for. -/
theorem digitValue?_eq_some_iff {c : Char} {n : Nat} :
    Text.digitValue? c = some n ↔ n < 16 ∧ c.toLower = digit n := by
  by_cases hc : c.toNat < 128
  · constructor
    · intro h
      have hn := digitValue?_lt h
      have := (digitValue?_of_ascii c.toNat hc n hn).1
      rw [Char.ofNat_toNat] at this
      exact ⟨hn, this h⟩
    · rintro ⟨hn, h⟩
      have := (digitValue?_of_ascii c.toNat hc n hn).2
      rw [Char.ofNat_toNat] at this
      exact this h
  · rw [digitValue?_of_not_ascii (by omega), toLower_of_not_ascii (by omega)]
    constructor
    · intro h
      cases h
    · rintro ⟨hn, rfl⟩
      have := toNat_digit hn
      split at this <;> omega

/-! ### Bytes of a text -/

theorem value?_of_not_ascii {b : UInt8} (h : 128 ≤ b.toNat) : value? b = none := by
  rw [value?]
  grind

theorem value?_ofNat {c : Char} (h : c.toNat < 128) : value? (UInt8.ofNat c.toNat) = Text.digitValue? c := by
  have : ∀ k < 128, value? (UInt8.ofNat k) = Text.digitValue? (Char.ofNat k) := by decide +kernel
  rw [this c.toNat h, Char.ofNat_toNat]

theorem utf8EncodeChar_of_ascii {c : Char} (h : c.toNat < 128) :
    String.utf8EncodeChar c = [UInt8.ofNat c.toNat] := by
  rw [String.utf8EncodeChar]
  exact if_pos (Nat.le_of_lt_succ h)

/-- The bytes of a character outside ASCII are no digits. -/
theorem value?_utf8EncodeChar {c : Char} (h : 128 ≤ c.toNat) {b : UInt8} (hb : b ∈ String.utf8EncodeChar c) :
    value? b = none := by
  apply value?_of_not_ascii
  have hv : ¬ c.val.toNat ≤ 0x7f := Nat.not_le.2 h
  simp only [String.utf8EncodeChar, hv, if_false] at hb
  split at hb
  · simp only [List.mem_cons, List.not_mem_nil, or_false] at hb
    rcases hb with rfl | rfl <;> rw [UInt8.toNat_ofNat'] <;> omega
  · split at hb
    · simp only [List.mem_cons, List.not_mem_nil, or_false] at hb
      rcases hb with rfl | rfl | rfl <;> rw [UInt8.toNat_ofNat'] <;> omega
    · simp only [List.mem_cons, List.not_mem_nil, or_false] at hb
      rcases hb with rfl | rfl | rfl | rfl <;> rw [UInt8.toNat_ofNat'] <;> omega

/-! ### Pairs of digits -/

/-- The halves of the bytes, the high one of each first. -/
def nibbles (bs : Bytes) : List Nat := bs.flatMap fun b => [b.toNat / 16, b.toNat % 16]

@[simp] theorem nibbles_nil : nibbles [] = [] := rfl

@[simp] theorem nibbles_cons (b : UInt8) (bs : Bytes) :
    nibbles (b :: bs) = b.toNat / 16 :: b.toNat % 16 :: nibbles bs := rfl

theorem lt_of_mem_nibbles {bs : Bytes} {n : Nat} (h : n ∈ nibbles bs) : n < 16 := by
  obtain ⟨b, -, hb⟩ := List.mem_flatMap.1 h
  have := b.toNat_lt
  simp only [List.mem_cons, List.not_mem_nil, or_false] at hb
  omega

theorem length_nibbles (bs : Bytes) : (nibbles bs).length = 2 * bs.length := by
  induction bs with
  | nil => rfl
  | cons b bs ih =>
    simp only [nibbles_cons, List.length_cons, ih]
    omega

theorem flatMap_pair (bs : Bytes) : bs.flatMap pair = (nibbles bs).map digit := by
  induction bs with
  | nil => rfl
  | cons b bs ih => simp [pair, ih]

theorem toList_encode (bs : Bytes) : (encode bs).toList = (nibbles bs).map digit := by
  rw [encode, String.toList_ofList, flatMap_pair]

theorem value?_lt {b : UInt8} {n : Nat} (h : value? b = some n) : n < 16 := by
  rw [value?] at h
  grind

theorem decodeFrom_eq_ok_iff {xs : Bytes} {index : Nat} {bs : Bytes} :
    decodeFrom index xs = .ok bs ↔ xs.map value? = (nibbles bs).map some := by
  fun_induction decodeFrom index xs generalizing bs with
  | case1 => cases bs <;> simp
  | case2 => cases bs <;> simp
  | case3 index a b rest ha => cases bs <;> simp [ha]
  | case4 index a b rest x ha hb => cases bs <;> simp [ha, hb]
  | case5 index a b rest x ha y hb e he ih =>
    cases bs with
    | nil => simp
    | cons c bs =>
      have := @ih bs
      simp only [he, reduceCtorEq, false_iff] at this
      simp [this]
  | case6 index a b rest x ha y hb tail htail ih =>
    cases bs with
    | nil => simp
    | cons c bs =>
      have := @ih bs
      rw [htail, Except.ok.injEq] at this
      have hx := value?_lt ha
      have hy := value?_lt hb
      have hc := c.toNat_lt
      simp only [List.map_cons, nibbles_cons, List.cons.injEq, ha, hb, Option.some.injEq, ← this, Except.ok.injEq]
      rw [← and_assoc]
      refine and_congr_left fun _ => ?_
      rw [← UInt8.toNat_inj, UInt8.toNat_ofNat_of_lt' (show 16 * x + y < 256 by omega)]
      omega

theorem decode_eq_ok_iff {xs bs : Bytes} : decode xs = .ok bs ↔ xs.map value? = (nibbles bs).map some := by
  rw [decode]
  split
  · next hodd =>
    simp only [reduceCtorEq, false_iff]
    intro h
    have := congrArg List.length h
    rw [List.length_map, List.length_map, length_nibbles] at this
    omega
  · exact decodeFrom_eq_ok_iff

theorem map_value?_utf8 {cs : List Char} {ns : List Nat} :
    (cs.flatMap String.utf8EncodeChar).map value? = ns.map some ↔ cs.map Text.digitValue? = ns.map some := by
  induction cs generalizing ns with
  | nil => rfl
  | cons c cs ih =>
    by_cases hc : c.toNat < 128
    · cases ns with
      | nil => simp [utf8EncodeChar_of_ascii hc]
      | cons n ns =>
        rw [List.flatMap_cons, utf8EncodeChar_of_ascii hc]
        simp only [List.cons_append, List.nil_append, List.map_cons, value?_ofNat hc, List.cons.injEq, ih]
    · -- the first byte of such a character spoils the left side as the character spoils the right one
      have hc : 128 ≤ c.toNat := Nat.le_of_not_lt hc
      obtain ⟨b, tail, hb⟩ := List.exists_cons_of_ne_nil (String.utf8EncodeChar_ne_nil (c := c))
      have hv := value?_utf8EncodeChar hc (b := b) (by simp [hb])
      cases ns <;> simp [hb, hv, digitValue?_of_not_ascii hc]

theorem map_digitValue?_eq_iff {cs : List Char} {ns : List Nat} (hns : ∀ n ∈ ns, n < 16) :
    cs.map Text.digitValue? = ns.map some ↔ cs.map Char.toLower = ns.map digit := by
  induction cs generalizing ns with
  | nil => cases ns <;> simp
  | cons c cs ih =>
    cases ns with
    | nil => simp
    | cons n ns =>
      simp only [List.forall_mem_cons] at hns
      simp only [List.map_cons, List.cons.injEq, digitValue?_eq_some_iff, hns.1, true_and, ih hns.2]

/-- A text spells bytes just when its small form is the text they are written with. -/
theorem decode_utf8_eq_ok_iff {s : String} {bs : Bytes} :
    decode (Bytes.utf8 s) = .ok bs ↔ s.toList.map Char.toLower = (encode bs).toList := by
  rw [decode_eq_ok_iff, Bytes.utf8, map_value?_utf8, map_digitValue?_eq_iff fun _ => lt_of_mem_nibbles,
    toList_encode]

@[simp] theorem length_encode (bs : Bytes) : (encode bs).toList.length = 2 * bs.length := by
  rw [toList_encode, List.length_map, length_nibbles]

theorem encode_mem {bs : Bytes} {c : Char} (h : c ∈ (encode bs).toList) : c ∈ "0123456789abcdef".toList := by
  rw [toList_encode] at h
  obtain ⟨n, hn, rfl⟩ := List.mem_map.1 h
  exact digit_mem (lt_of_mem_nibbles hn)

/-- The text is so many digits, with small letters. -/
structure SmallDigits (n : Nat) (s : String) : Prop where
  length : s.toList.length = n
  digit : ∀ c ∈ s.toList, c ∈ "0123456789abcdef".toList

theorem smallDigits_encode {bs : Bytes} {k : Nat} (h : bs.length = k) : SmallDigits (2 * k) (encode bs) where
  length := by rw [length_encode, h]
  digit _ := encode_mem

theorem map_toLower_encode (bs : Bytes) : (encode bs).toList.map Char.toLower = (encode bs).toList := by
  have hlower : ∀ n < 16, (digit n).toLower = digit n := by decide
  rw [toList_encode, List.map_map]
  exact List.map_congr_left fun n hn => hlower n (lt_of_mem_nibbles hn)

@[simp] theorem decode_encode (bs : Bytes) : decode (Bytes.utf8 (encode bs)) = .ok bs :=
  decode_utf8_eq_ok_iff.2 (map_toLower_encode bs)

/-- Digits of either case that come in pairs are those of some bytes. -/
theorem exists_bytes_of_digits (k : Nat) {ds : List Char} (hlength : ds.length = 2 * k)
    (hds : ∀ c ∈ ds, (Text.digitValue? c).isSome) :
    ∃ bs : Bytes, bs.length = k ∧ ds.map Char.toLower = (encode bs).toList := by
  induction k generalizing ds with
  | zero => exact ⟨[], rfl, by rw [List.eq_nil_of_length_eq_zero hlength]; rfl⟩
  | succ k ih =>
    match ds, hlength with
    | c :: d :: ds, hlength =>
      simp only [List.forall_mem_cons, Option.isSome_iff_exists] at hds
      obtain ⟨⟨x, hx⟩, ⟨y, hy⟩, hrest⟩ := hds
      obtain ⟨hxlt, hxdigit⟩ := digitValue?_eq_some_iff.1 hx
      obtain ⟨hylt, hydigit⟩ := digitValue?_eq_some_iff.1 hy
      obtain ⟨bs, hbs, hlower⟩ := ih (by simp only [List.length_cons] at hlength; omega) fun c hc =>
        Option.isSome_iff_exists.2 (hrest c hc)
      have hbyte := UInt8.toNat_ofNat_of_lt' (show 16 * x + y < 256 by omega)
      have hhigh : (16 * x + y) / 16 = x := by omega
      have hlow : (16 * x + y) % 16 = y := by omega
      refine ⟨UInt8.ofNat (16 * x + y) :: bs, by rw [List.length_cons, hbs], ?_⟩
      rw [toList_encode, nibbles_cons, hbyte, hhigh, hlow, List.map_cons, List.map_cons, List.map_cons, List.map_cons,
        hxdigit, hydigit, hlower, toList_encode]

/-! ### Texts with markers -/

/-- Without its markers and in small letters, the text is what the bytes are written as. -/
def Spells (s : String) (bs : Bytes) : Prop := (body s).toList.map Char.toLower = (encode bs).toList

theorem parse_eq_ok_iff {s : String} {bs : Bytes} : parse s = .ok bs ↔ Spells s bs := decode_utf8_eq_ok_iff

theorem stripMarker_of_not_mem {cs : List Char} (h : 'x' ∉ cs) : stripMarker cs = cs := by
  rw [stripMarker]
  rintro rest rfl
  simp at h

theorem stripAnyMarker_of_not_mem {cs : List Char} (hsmall : 'x' ∉ cs) (hlarge : 'X' ∉ cs) :
    stripAnyMarker cs = cs := by
  rw [stripAnyMarker]
  · rintro rest rfl
    simp at hsmall
  · rintro rest rfl
    simp at hlarge

/-- No marker is found in the digits of bytes, so they spell the bytes as they stand. -/
theorem spells_encode (bs : Bytes) : Spells (encode bs) bs := by
  have hsmall : 'x' ∉ (encode bs).toList := fun h => absurd (encode_mem h) (by decide)
  have hlarge : 'X' ∉ (encode bs).toList := fun h => absurd (encode_mem h) (by decide)
  rw [Spells, body, stripMarker_of_not_mem hsmall, stripAnyMarker_of_not_mem hsmall hlarge, String.toList_ofList,
    map_toLower_encode]

theorem body_prefixed {s : String} (hsmall : 'x' ∉ s.toList) : body ("0x" ++ s) = body s := by
  have hstrip : stripMarker ("0x" ++ s).toList = s.toList := by
    rw [String.toList_append]
    rfl
  rw [body, body, hstrip, stripMarker_of_not_mem hsmall]

theorem spells_prefixed_encode (bs : Bytes) : Spells ("0x" ++ encode bs) bs := by
  rw [Spells, body_prefixed fun h => absurd (encode_mem h) (by decide)]
  exact spells_encode bs

end Keyring.Hex
