import Keyring.Evm.Account
import Keyring.Proofs.Hex

/-! The texts that name an account: `0x` and the digits of its 20 bytes, each letter in either case. The mixed case of
EIP-55 is one of them. -/
namespace Keyring.Evm.Account

/-- In small letters, the text is `0x` and the digits of the account. -/
def NamedBy (a : Account) (s : String) : Prop :=
  ∃ ds, s.toList = '0' :: 'x' :: ds ∧ ds.map Char.toLower = (Hex.encode a.bytes).toList

theorem isHexDigit_eq (c : Char) : Address.isHexDigit c = (Text.digitValue? c).isSome := by
  simp only [Address.isHexDigit, Char.isDigit, Text.digitValue?, Char.le_def]
  by_cases h09 : '0'.val ≤ c.val ∧ c.val ≤ '9'.val
  · simp only [if_pos h09, Option.isSome_some]
    simp [show 48 ≤ c.val ∧ c.val ≤ 57 from h09]
  · have : ¬ (48 ≤ c.val ∧ c.val ≤ 57) := h09
    simp only [if_neg h09]
    grind

theorem isHexDigit_of_map_toLower {ds : List Char} {bs : Bytes} (h : ds.map Char.toLower = (Hex.encode bs).toList) :
    ∀ c ∈ ds, Address.isHexDigit c = true := by
  intro c hc
  have hmem : c.toLower ∈ (Hex.encode bs).toList := h ▸ List.mem_map_of_mem hc
  rw [Hex.toList_encode] at hmem
  obtain ⟨n, hn, hdigit⟩ := List.mem_map.1 hmem
  rw [isHexDigit_eq, Hex.digitValue?_eq_some_iff.2 ⟨Hex.lt_of_mem_nibbles hn, hdigit.symm⟩]
  rfl

theorem isEvm_iff {s : String} :
    Address.isEvm s = true ↔
      ∃ ds, s.toList = '0' :: 'x' :: ds ∧ ds.length = 40 ∧ ∀ c ∈ ds, Address.isHexDigit c = true := by
  rw [Address.isEvm]
  split
  · next rest hs => simp [hs]
  · next hne =>
    simp only [Bool.false_eq_true, false_iff]
    rintro ⟨ds, hs, -⟩
    exact hne ds hs

theorem NamedBy.isEvm {a : Account} {s : String} (h : a.NamedBy s) : Address.isEvm s = true := by
  obtain ⟨ds, hs, hds⟩ := h
  refine isEvm_iff.2 ⟨ds, hs, ?_, isHexDigit_of_map_toLower hds⟩
  have := congrArg List.length hds
  rwa [List.length_map, Hex.length_encode, a.length_bytes] at this

theorem parse?_eq_some_iff {s : String} {a : Account} : parse? s = some a ↔ a.NamedBy s := by
  constructor
  · intro h
    rw [parse?] at h
    split at h
    · next hevm =>
      obtain ⟨ds, hs, -⟩ := isEvm_iff.1 hevm
      split at h
      · next bs hdecode =>
        split at h
        · cases h
          rw [hs, Hex.decode_utf8_eq_ok_iff, String.toList_ofList] at hdecode
          exact ⟨ds, hs, hdecode⟩
        · cases h
      · cases h
    · cases h
  · intro h
    obtain ⟨ds, hs, hds⟩ := id h
    have hdecode : Hex.decode (Bytes.utf8 (String.ofList (s.toList.drop 2))) = .ok a.bytes := by
      rw [hs, Hex.decode_utf8_eq_ok_iff, String.toList_ofList]
      exact hds
    rw [parse?, if_pos h.isEvm, hdecode]
    simp

theorem NamedBy.unique {a b : Account} {s : String} (ha : a.NamedBy s) (hb : b.NamedBy s) : a = b :=
  Option.some.inj ((parse?_eq_some_iff.2 ha).symm.trans (parse?_eq_some_iff.2 hb))

/-- Any 40 digits of either case name an account. -/
theorem exists_namedBy_iff {s : String} : (∃ a : Account, a.NamedBy s) ↔ Address.isEvm s = true := by
  constructor
  · rintro ⟨a, ha⟩
    exact ha.isEvm
  · intro h
    obtain ⟨ds, hs, hlength, hdigits⟩ := isEvm_iff.1 h
    obtain ⟨bs, hbs, hlower⟩ := Hex.exists_bytes_of_digits 20 hlength fun c hc => by
      rw [← isHexDigit_eq]
      exact hdigits c hc
    exact ⟨⟨bs, hbs⟩, ds, hs, hlower⟩

/-- The case of the letters says nothing. -/
theorem namedBy_congr {s s' : String} {ds ds' : List Char} (hs : s.toList = '0' :: 'x' :: ds)
    (hs' : s'.toList = '0' :: 'x' :: ds') (h : ds.map Char.toLower = ds'.map Char.toLower) (a : Account) :
    a.NamedBy s ↔ a.NamedBy s' := by
  simp [NamedBy, hs, hs', h]

/-! ### The text of an account -/

theorem toLower_raise {n : Nat} (h : n < 16) (mark : Char) : (raise (Hex.digit n) mark).toLower = Hex.digit n := by
  have hkept : ∀ n < 16, (Hex.digit n).toLower = Hex.digit n := by decide
  have hraised : ∀ n < 16, 'a' ≤ Hex.digit n → (Char.ofNat ((Hex.digit n).toNat - 32)).toLower = Hex.digit n := by
    decide
  rw [raise]
  split
  · next hc => exact hraised n h hc.1
  · exact hkept n h

theorem map_toLower_raise {ns : List Nat} {marks : List Char} (hns : ∀ n ∈ ns, n < 16)
    (hlength : ns.length ≤ marks.length) :
    (List.zipWith raise (ns.map Hex.digit) marks).map Char.toLower = ns.map Hex.digit := by
  induction ns generalizing marks with
  | nil => rfl
  | cons n ns ih =>
    cases marks with
    | nil => simp at hlength
    | cons mark marks =>
      rw [List.forall_mem_cons] at hns
      rw [List.map_cons, List.zipWith_cons_cons, List.map_cons, toLower_raise hns.1,
        ih hns.2 (Nat.le_of_succ_le_succ hlength)]

theorem toList_toText (a : Account) :
    ∃ marks, marks.length = 64 ∧
      a.toText.toList = '0' :: 'x' :: List.zipWith raise ((Hex.nibbles a.bytes).map Hex.digit) marks := by
  refine ⟨(keccak256 (Bytes.utf8 (String.ofList a.digits))).flatMap Hex.pair, ?_, ?_⟩
  · rw [Hex.flatMap_pair, List.length_map, Hex.length_nibbles, length_keccak256]
  · have hmark : "0x".toList = ['0', 'x'] := rfl
    rw [toText, String.toList_append, hmark, String.toList_ofList, digits, Hex.flatMap_pair a.bytes]
    rfl

/-- The text of an account names it: the marks change nothing but the case of letters. -/
theorem namedBy_toText (a : Account) : a.NamedBy a.toText := by
  obtain ⟨marks, hlength, htext⟩ := a.toList_toText
  refine ⟨_, htext, ?_⟩
  rw [Hex.toList_encode]
  exact map_toLower_raise (fun _ => Hex.lt_of_mem_nibbles) (by rw [Hex.length_nibbles, a.length_bytes, hlength]; decide)

theorem isEvm_toText (a : Account) : Address.isEvm a.toText = true := a.namedBy_toText.isEvm

end Keyring.Evm.Account
