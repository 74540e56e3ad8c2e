import Keyring.Proofs.Bytes
import Keyring.Proofs.Hex
import Keyring.Uuid

/-! The texts that spell an identifier. They are its digits alone, in groups, in groups between braces and in groups
behind `urn:uuid:`, each with letters of either case; no other text spells it. Its canonical text is one of them, and
two identifiers never share one. -/
namespace Keyring.Uuid

/-- The spellings of an identifier in small letters. -/
def spellings (id : Uuid) : List (List Char) :=
  [id.digits, group id.digits, '{' :: (group id.digits ++ ['}']), "urn:uuid:".toList ++ group id.digits]

def Spells (s : String) (id : Uuid) : Prop := s.toList.map Char.toLower ∈ spellings id

theorem digits_eq (id : Uuid) : id.digits = (Hex.nibbles (Bytes.ofNat 16 id.bits)).map Hex.digit := by
  rw [digits, Hex.flatMap_pair]

@[simp] theorem length_digits (id : Uuid) : id.digits.length = 32 := by
  rw [digits_eq, List.length_map, Hex.length_nibbles, Bytes.length_ofNat]

theorem ne_hyphen_of_mem_digits {id : Uuid} {c : Char} (h : c ∈ id.digits) : c ≠ '-' := by
  have hdigit : ∀ n < 16, Hex.digit n ≠ '-' := by decide
  rw [digits_eq] at h
  obtain ⟨n, hn, rfl⟩ := List.mem_map.1 h
  exact hdigit n (Hex.lt_of_mem_nibbles hn)

/-! ### Grouped digits -/

theorem join_slices (ds : List Char) :
    ds.take 8 ++ ((ds.drop 8).take 4 ++ ((ds.drop 12).take 4 ++ ((ds.drop 16).take 4 ++ ds.drop 20))) = ds := by
  have hjoin (i k : Nat) : (ds.drop i).take k ++ ds.drop (i + k) = ds.drop i := by
    rw [← List.drop_drop, List.take_append_drop]
  rw [hjoin 16 4, hjoin 12 4, hjoin 8 4, List.take_append_drop]

/-- Groups without their hyphens are the digits themselves. -/
theorem filter_group {ds : List Char} (h : ∀ c ∈ ds, c ≠ '-') : (group ds).filter (· != '-') = ds := by
  have hkeep {cs : List Char} (hcs : ∀ c ∈ cs, c ∈ ds) : cs.filter (· != '-') = cs :=
    List.filter_eq_self.2 fun c hc => by simp [h c (hcs c hc)]
  have hslice (i k : Nat) : ∀ c ∈ (ds.drop i).take k, c ∈ ds :=
    fun c hc => List.mem_of_mem_drop (List.mem_of_mem_take hc)
  have hdrop (cs : List Char) : ('-' :: cs).filter (· != '-') = cs.filter (· != '-') := rfl
  simp only [group, List.filter_append, hdrop]
  rw [hkeep fun c => List.mem_of_mem_take, hkeep (hslice 8 4), hkeep (hslice 12 4), hkeep (hslice 16 4),
    hkeep fun c => List.mem_of_mem_drop, join_slices]

theorem length_group {ds : List Char} (h : ds.length = 32) : (group ds).length = 36 := by
  simp [group, h]

/-! ### The number that the digits spell -/

theorem foldl_nibbles (bs : Bytes) (n : Nat) :
    (Hex.nibbles bs).foldl (fun n d => 16 * n + d) n = bs.foldl (fun n b => 256 * n + b.toNat) n := by
  induction bs generalizing n with
  | nil => rfl
  | cons b bs ih =>
    rw [Hex.nibbles_cons, List.foldl_cons, List.foldl_cons, ih, List.foldl_cons]
    congr 1
    omega

theorem mapM_digitValue?_eq_some_iff {cs : List Char} {ns : List Nat} :
    cs.mapM (fun c => (Text.digitValue? c).filter (· < 16)) = some ns ↔
      (∀ n ∈ ns, n < 16) ∧ cs.map Char.toLower = ns.map Hex.digit := by
  have hvalue (c : Char) (n : Nat) :
      (Text.digitValue? c).filter (· < 16) = some n ↔ n < 16 ∧ c.toLower = Hex.digit n := by
    rw [Option.filter_eq_some_iff, Hex.digitValue?_eq_some_iff, decide_eq_true_eq, and_right_comm, and_self]
  induction cs generalizing ns with
  | nil => cases ns <;> simp
  | cons c cs ih =>
    simp only [List.mapM_cons, Option.bind_eq_bind, Option.bind_eq_some_iff, hvalue, ih, Option.pure_def,
      Option.some.injEq]
    cases ns with
    | nil => simp
    | cons n ns =>
      simp only [List.cons.injEq, List.forall_mem_cons, List.map_cons]
      constructor
      · rintro ⟨n, ⟨hn, hc⟩, ns, ⟨hns, hcs⟩, rfl, rfl⟩
        exact ⟨⟨hn, hns⟩, hc, hcs⟩
      · rintro ⟨⟨hn, hns⟩, hc, hcs⟩
        exact ⟨n, ⟨hn, hc⟩, ns, ⟨hns, hcs⟩, rfl, rfl⟩

/-- The digits of bytes, in either case, spell the number of the bytes. -/
theorem numeral?_of_nibbles {ds : List Char} {bs : Bytes} (h : ds.map Char.toLower = (Hex.nibbles bs).map Hex.digit) :
    Text.numeral? 16 ds = some (Bytes.toNat bs) := by
  rw [Text.numeral?, mapM_digitValue?_eq_some_iff.2 ⟨fun _ => Hex.lt_of_mem_nibbles, h⟩, Option.map_some,
    foldl_nibbles]
  rfl

theorem ofNat_bits (id : Uuid) : ofNat id.bits = id := by
  cases id with
  | mk bits bits_lt => simp only [ofNat, Nat.mod_eq_of_lt bits_lt]

/-- Digits in either case, 32 of them, are read as the identifier that has them. -/
theorem ofDigits?_eq_some_iff {ds : List Char} {id : Uuid} :
    ofDigits? ds = some id ↔ ds.map Char.toLower = id.digits := by
  constructor
  · intro h
    rw [ofDigits?] at h
    split at h
    · cases h
    · next n hn =>
      rw [Option.ite_none_right_eq_some, Option.some.injEq] at h
      obtain ⟨hlength, rfl⟩ := h
      obtain ⟨ns, hns, -⟩ := Option.map_eq_some_iff.1 hn
      obtain ⟨hlt, hlower⟩ := mapM_digitValue?_eq_some_iff.1 hns
      have hvalues := (Hex.map_digitValue?_eq_iff hlt).2 hlower
      have hsome : ∀ c ∈ ds, (Text.digitValue? c).isSome := by
        intro c hc
        obtain ⟨n, -, hn⟩ := List.mem_map.1 (hvalues ▸ List.mem_map_of_mem (f := Text.digitValue?) hc)
        rw [← hn]
        rfl
      obtain ⟨bs, hbs, hlower⟩ := Hex.exists_bytes_of_digits 16 hlength hsome
      rw [Hex.toList_encode] at hlower
      rw [numeral?_of_nibbles hlower, Option.some.injEq] at hn
      have hbytes : Bytes.ofNat 16 (ofNat n).bits = bs := by
        have hlt := Bytes.toNat_lt bs
        rw [hbs, hn] at hlt
        rw [show (ofNat n).bits = n from Nat.mod_eq_of_lt hlt, ← hn, Bytes.ofNat_toNat hbs]
      rw [digits_eq, hbytes, hlower]
  · intro h
    have hlength : ds.length = 32 := by rw [← id.length_digits, ← h, List.length_map]
    have hbits : Bytes.toNat (Bytes.ofNat 16 id.bits) = id.bits := by
      rw [Bytes.toNat_ofNat]
      exact Nat.mod_eq_of_lt id.bits_lt
    rw [digits_eq] at h
    rw [ofDigits?, numeral?_of_nibbles h, hbits]
    simp only [hlength, if_true, ofNat_bits]

/-! ### Texts -/

theorem toLower_cases (c : Char) : c.toLower = c ∨ (97 ≤ c.toLower.toNat ∧ c.toLower.toNat ≤ 122) := by
  have hascii : ∀ k < 128, (Char.ofNat k).toLower = Char.ofNat k
      ∨ (97 ≤ (Char.ofNat k).toLower.toNat ∧ (Char.ofNat k).toLower.toNat ≤ 122) := by
    decide +kernel
  by_cases hc : c.toNat < 128
  · have := hascii c.toNat hc
    rwa [Char.ofNat_toNat] at this
  · exact .inl (Hex.toLower_of_not_ascii (Nat.le_of_not_lt hc))

/-- What is no small letter is the small form of itself only. -/
theorem eq_of_toLower_eq {c d : Char} (hd : d.toNat < 97 ∨ 122 < d.toNat) (h : c.toLower = d) : c = d := by
  rcases toLower_cases c with hc | hc
  · exact hc.symm.trans h
  · rw [h] at hc
    omega

theorem map_toLower_group (ds : List Char) : (group ds).map Char.toLower = group (ds.map Char.toLower) := by
  have hhyphen : '-'.toLower = '-' := by decide
  simp only [group, List.map_append, List.map_cons, List.map_take, List.map_drop, hhyphen]

/-- What is grouped in small letters is grouped. -/
theorem eq_group_of_toLower {cs ds : List Char} (hlength : ds.length = 32) (h : cs.map Char.toLower = group ds) :
    ∃ es, cs = group es ∧ es.map Char.toLower = ds := by
  have hhyphen {c : Char} (hc : c.toLower = '-') : c = '-' := eq_of_toLower_eq (by decide) hc
  obtain ⟨a, cs₁, rfl, ha, h₁⟩ := List.map_eq_append_iff.1 h
  obtain ⟨mark₁, cs₂, rfl, hmark₁, h₂⟩ := List.map_eq_cons_iff.1 h₁
  obtain ⟨b, cs₃, rfl, hb, h₃⟩ := List.map_eq_append_iff.1 h₂
  obtain ⟨mark₂, cs₄, rfl, hmark₂, h₄⟩ := List.map_eq_cons_iff.1 h₃
  obtain ⟨c, cs₅, rfl, hc, h₅⟩ := List.map_eq_append_iff.1 h₄
  obtain ⟨mark₃, cs₆, rfl, hmark₃, h₆⟩ := List.map_eq_cons_iff.1 h₅
  obtain ⟨d, cs₇, rfl, hd, h₇⟩ := List.map_eq_append_iff.1 h₆
  obtain ⟨mark₄, e, rfl, hmark₄, he⟩ := List.map_eq_cons_iff.1 h₇
  rw [hhyphen hmark₁, hhyphen hmark₂, hhyphen hmark₃, hhyphen hmark₄]
  refine ⟨a ++ (b ++ (c ++ (d ++ e))), ?_, ?_⟩
  · have halength : a.length = 8 := by simpa [hlength] using congrArg List.length ha
    have hblength : b.length = 4 := by simpa [hlength] using congrArg List.length hb
    have hclength : c.length = 4 := by simpa [hlength] using congrArg List.length hc
    have hdlength : d.length = 4 := by simpa [hlength] using congrArg List.length hd
    simp [group, List.drop_append, List.drop_of_length_le, halength, hblength, hclength, hdlength]
  · rw [List.map_append, List.map_append, List.map_append, List.map_append, ha, hb, hc, hd, he, join_slices]

theorem ungroup?_eq_some_iff {cs : List Char} {id : Uuid} :
    (ungroup? cs).bind ofDigits? = some id ↔ cs.map Char.toLower = group id.digits := by
  constructor
  · intro h
    obtain ⟨ds, hds, h⟩ := Option.bind_eq_some_iff.1 h
    rw [ungroup?, Option.ite_none_right_eq_some, Option.some.injEq] at hds
    obtain ⟨⟨-, hgroup⟩, rfl⟩ := hds
    rw [← ofDigits?_eq_some_iff.1 h, ← map_toLower_group, hgroup]
  · intro h
    obtain ⟨ds, rfl, hds⟩ := eq_group_of_toLower id.length_digits h
    have hlength : ds.length = 32 := by rw [← id.length_digits, ← hds, List.length_map]
    have hhyphen : ∀ c ∈ ds, c ≠ '-' := by
      rintro c hc rfl
      exact ne_hyphen_of_mem_digits (hds ▸ List.mem_map_of_mem (f := Char.toLower) hc) rfl
    rw [ungroup?, filter_group hhyphen, if_pos ⟨length_group hlength, rfl⟩, Option.bind_some,
      ofDigits?_eq_some_iff.2 hds]

theorem map_toLower_braced {cs ds : List Char} :
    cs.map Char.toLower = '{' :: (ds ++ ['}']) ↔ ∃ es, cs = '{' :: (es ++ ['}']) ∧ es.map Char.toLower = ds := by
  constructor
  · intro h
    obtain ⟨opening, cs₁, rfl, hopening, h₁⟩ := List.map_eq_cons_iff.1 h
    obtain ⟨es, cs₂, rfl, hes, h₂⟩ := List.map_eq_append_iff.1 h₁
    obtain ⟨closing, cs₃, rfl, hclosing, h₃⟩ := List.map_eq_cons_iff.1 h₂
    rw [eq_of_toLower_eq (by decide) hopening, eq_of_toLower_eq (by decide) hclosing, List.map_eq_nil_iff.1 h₃]
    exact ⟨es, rfl, hes⟩
  · rintro ⟨es, rfl, rfl⟩
    rw [List.map_cons, List.map_append]
    rfl

theorem braced_iff {cs : List Char} : (cs.length = 38 ∧ cs.head? = some '{' ∧ cs.getLast? = some '}') ↔
    ∃ es, cs = '{' :: (es ++ ['}']) ∧ es.length = 36 := by
  constructor
  · rintro ⟨hlength, hhead, hlast⟩
    obtain ⟨front, rfl⟩ := List.getLast?_eq_some_iff.1 hlast
    cases front with
    | nil => simp at hlength
    | cons c es =>
      rw [List.cons_append, List.head?_cons, Option.some.injEq] at hhead
      exact ⟨es, by rw [hhead, List.cons_append], by simpa using hlength⟩
  · rintro ⟨es, rfl, hlength⟩
    refine ⟨by simp [hlength], rfl, ?_⟩
    rw [← List.cons_append, List.getLast?_concat]

/-- A text spells an identifier just when it is read as the identifier. -/
theorem parse?_eq_some_iff {s : String} {id : Uuid} : parse? s = some id ↔ Spells s id := by
  have hgroup : (group id.digits).length = 36 := length_group id.length_digits
  have hinner (es : List Char) : (('{' :: (es ++ ['}'])).drop 1).take 36 = (es ++ ['}']).take 36 := rfl
  simp only [Spells, spellings, List.mem_cons, List.not_mem_nil, or_false]
  constructor
  · intro h
    simp only [parse?] at h
    split at h
    · exact .inl (ofDigits?_eq_some_iff.1 h)
    split at h
    · exact .inr (.inl (ungroup?_eq_some_iff.1 h))
    split at h
    · next hbraced =>
      obtain ⟨es, hs, hlength⟩ := braced_iff.1 hbraced
      rw [hs, hinner, List.take_left' hlength] at h
      exact .inr (.inr (.inl (map_toLower_braced.2 ⟨es, hs, ungroup?_eq_some_iff.1 h⟩)))
    split at h
    · next hnamed =>
      rw [← List.take_append_drop 9 s.toList, List.map_append, hnamed.2, ungroup?_eq_some_iff.1 h]
      exact .inr (.inr (.inr rfl))
    · cases h
  · rintro (h | h | h | h)
    · have hlength : s.toList.length = 32 := by rw [← id.length_digits, ← h, List.length_map]
      rw [parse?, if_pos hlength, ofDigits?_eq_some_iff.2 h]
    · have hlength : s.toList.length = 36 := by rw [← hgroup, ← h, List.length_map]
      rw [parse?, if_neg (by omega), if_pos hlength, ungroup?_eq_some_iff.2 h]
    · obtain ⟨es, hs, hes⟩ := map_toLower_braced.1 h
      have hlength : es.length = 36 := by rw [← hgroup, ← hes, List.length_map]
      have hbraced := braced_iff.2 ⟨es, hs, hlength⟩
      rw [parse?, if_neg (by omega), if_neg (by omega), if_pos hbraced, hs, hinner, List.take_left' hlength,
        ungroup?_eq_some_iff.2 hes]
    · have hname : "urn:uuid:".toList.length = 9 := rfl
      have hlength : s.toList.length = 45 := by
        rw [← List.length_map (f := Char.toLower), h, List.length_append, hgroup, hname]
      have hfront : (s.toList.take 9).map Char.toLower = "urn:uuid:".toList := by
        rw [List.map_take, h, List.take_left' hname]
      have hrest : (s.toList.drop 9).map Char.toLower = group id.digits := by
        rw [List.map_drop, h, List.drop_left' hname]
      rw [parse?, if_neg (by omega), if_neg (by omega), if_neg fun hbraced => by omega, if_pos ⟨hlength, hfront⟩,
        ungroup?_eq_some_iff.2 hrest]

theorem spells_toString (id : Uuid) : Spells id.toString id := by
  have hdigits : id.digits.map Char.toLower = id.digits := by
    have := Hex.map_toLower_encode (Bytes.ofNat 16 id.bits)
    rwa [Hex.toList_encode, ← digits_eq] at this
  rw [Spells, toString, String.toList_ofList, map_toLower_group, hdigits]
  exact .tail _ (.head _)

theorem parse?_toString (id : Uuid) : parse? id.toString = some id := parse?_eq_some_iff.2 (spells_toString id)

theorem toString_injective {a b : Uuid} (h : a.toString = b.toString) : a = b := by
  have := congrArg parse? h
  rwa [parse?_toString, parse?_toString, Option.some.injEq] at this

end Keyring.Uuid
