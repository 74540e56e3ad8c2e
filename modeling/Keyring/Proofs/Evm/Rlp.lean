import Keyring.Evm.Rlp
import Keyring.Proofs.Bytes

/-! The strict reader of the recursive length encoding and its writer are inverse to each other: what was written is
read back, and what is read was written in this way, so an item has one encoding and no other spelling of it is
accepted. -/
namespace Keyring.Evm.Rlp

/-! ### Frames -/

/-- A string or list as it stands in front of further bytes. -/
def Framed.bytes (f : Framed) : Bytes :=
  (if f.isList then head 0xc0 f.body.length ++ f.body else encodeString f.body) ++ f.rest

theorem head_short {base length : Nat} (h : length < 56) : head base length = [UInt8.ofNat (base + length)] := by
  rw [head, if_pos h]

theorem head_long {base length : Nat} (h : 56 ≤ length) :
    head base length = UInt8.ofNat (base + 55 + (Bytes.minimal length).length) :: Bytes.minimal length := by
  rw [head, if_neg (by omega)]

theorem cut?_append (isList : Bool) (body rest : Bytes) :
    cut? isList body.length (body ++ rest) = some ⟨isList, body, rest⟩ := by
  simp [cut?]

theorem cutLong?_append (isList : Bool) (body rest : Bytes) (h : 56 ≤ body.length) :
    cutLong? isList (Bytes.minimal body.length).length (Bytes.minimal body.length ++ (body ++ rest)) =
      some ⟨isList, body, rest⟩ := by
  simp [cutLong?, h, cut?_append]

theorem encodeString_of_ne (bs : Bytes) (h : bs.length ≠ 1) : encodeString bs = head 0x80 bs.length ++ bs := by
  match bs, h with
  | [], _ => rfl
  | _ :: _ :: _, _ => rfl

theorem frame?_encodeString (bs rest : Bytes) (h : bs.length < 256 ^ 8) :
    frame? (encodeString bs ++ rest) = some ⟨false, bs, rest⟩ := by
  by_cases h1 : bs.length = 1
  · obtain ⟨b, rfl⟩ := List.length_eq_one_iff.1 h1
    by_cases hb : b < 0x80
    · have : b.toNat < 0x80 := hb
      simp [encodeString, hb, frame?, this]
    · simp [encodeString, hb, frame?, cut?]
  · rw [encodeString_of_ne bs h1]
    by_cases h56 : bs.length < 56
    · have hn := UInt8.toNat_ofNat_of_lt' (show 0x80 + bs.length < 256 by omega)
      have hstrict : encodeString bs = UInt8.ofNat (0x80 + bs.length) :: bs := by
        rw [encodeString_of_ne bs h1, head_short h56]
        rfl
      rw [head_short h56, List.singleton_append, List.cons_append, frame?]
      simp only [hn, show ¬ 0x80 + bs.length < 0x80 by omega, show 0x80 + bs.length < 0xb8 by omega, if_false,
        if_true, Nat.add_sub_cancel_left, cut?_append, hstrict]
    · have hlen := Bytes.length_minimal_le h
      have hpos := Bytes.length_minimal_pos (n := bs.length) (by omega)
      have hn := UInt8.toNat_ofNat_of_lt' (show 0x80 + 55 + (Bytes.minimal bs.length).length < 256 by omega)
      rw [head_long (by omega), List.cons_append, List.cons_append, List.append_assoc, frame?]
      simp only [hn]
      rw [if_neg (by omega), if_neg (by omega), if_pos (by omega), Nat.add_sub_cancel_left]
      exact cutLong?_append false bs rest (by omega)

theorem frame?_list (body rest : Bytes) (h : body.length < 256 ^ 8) :
    frame? (head 0xc0 body.length ++ body ++ rest) = some ⟨true, body, rest⟩ := by
  by_cases h56 : body.length < 56
  · have hn := UInt8.toNat_ofNat_of_lt' (show 0xc0 + body.length < 256 by omega)
    rw [head_short h56, List.singleton_append, List.cons_append, frame?]
    simp only [hn]
    rw [if_neg (by omega), if_neg (by omega), if_neg (by omega), if_pos (by omega), Nat.add_sub_cancel_left]
    exact cut?_append true body rest
  · have hlen := Bytes.length_minimal_le h
    have hpos := Bytes.length_minimal_pos (n := body.length) (by omega)
    have hn := UInt8.toNat_ofNat_of_lt' (show 0xc0 + 55 + (Bytes.minimal body.length).length < 256 by omega)
    rw [head_long (by omega), List.cons_append, List.cons_append, List.append_assoc, frame?]
    simp only [hn]
    rw [if_neg (by omega), if_neg (by omega), if_neg (by omega), if_neg (by omega), Nat.add_sub_cancel_left]
    exact cutLong?_append true body rest (by omega)

/-! ### What was written is read -/

theorem length_encodeString_pos (bs : Bytes) : 0 < (encodeString bs).length := by
  by_cases h : bs.length = 1
  · obtain ⟨b, rfl⟩ := List.length_eq_one_iff.1 h
    simp only [encodeString]
    split <;> simp
  · rw [encodeString_of_ne bs h, head]
    split <;> simp

theorem length_list (items : List Rlp) : (encodeItems items).length < (encode (list items)).length := by
  rw [encode, head]
  split
  · simp
  · simp only [List.length_append, List.length_cons]
    omega

theorem length_encode_pos (item : Rlp) : 0 < (encode item).length := by
  cases item with
  | string bs => exact length_encodeString_pos bs
  | list items => exact Nat.lt_of_le_of_lt (Nat.zero_le _) (length_list items)

theorem length_string (bs : Bytes) : bs.length ≤ (encodeString bs).length := by
  by_cases h : bs.length = 1
  · have := length_encodeString_pos bs
    omega
  · simp [encodeString_of_ne bs h]

-- Each item takes two calls for its first byte; a list spends one of them on the end of its items.
mutual

theorem readItem_encode : ∀ (item : Rlp) (rest : Bytes) (fuel : Nat), (encode item).length < 256 ^ 8 →
    2 * (encode item).length ≤ fuel → readItem fuel (encode item ++ rest) = some (item, rest)
  | item, _, 0, _, hf => absurd (length_encode_pos item) (by omega)
  | string bs, rest, fuel + 1, hsize, _ => by
    have := length_string bs
    rw [encode] at hsize ⊢
    simp [readItem, frame?_encodeString bs rest (by omega)]
  | list items, rest, fuel + 1, hsize, hf => by
    have hlen := length_list items
    have ih := readItems_encode items fuel (by omega) (by omega)
    rw [encode, readItem, frame?_list (encodeItems items) rest (by omega)]
    simp [ih]

theorem readItems_encode : ∀ (items : List Rlp) (fuel : Nat), (encodeItems items).length < 256 ^ 8 →
    2 * (encodeItems items).length + 1 ≤ fuel → readItems fuel (encodeItems items) = some items
  | _, 0, _, hf => absurd hf (by omega)
  | [], fuel + 1, _, _ => by simp [encodeItems, readItems]
  | item :: items, fuel + 1, hsize, hf => by
    have hpos := length_encode_pos item
    rw [encodeItems, List.length_append] at hsize hf
    have hitem := readItem_encode item (encodeItems items) fuel (by omega) (by omega)
    have hitems := readItems_encode items fuel (by omega) (by omega)
    have hne : encode item ++ encodeItems items ≠ [] := by
      intro h
      have := congrArg List.length h
      simp only [List.length_append, List.length_nil] at this
      omega
    rw [encodeItems, readItems, if_neg hne, hitem]
    simp [hitems]

end

/-- An item whose encoding has less than `2 ^ 64` bytes is read back. -/
theorem decode?_encode (item : Rlp) (h : (encode item).length < 256 ^ 8) : decode? (encode item) = some item := by
  have hread := readItem_encode item [] (2 * (encode item).length + 2) h (by omega)
  rw [List.append_nil] at hread
  rw [decode?, hread]

/-! ### What is read was written -/

theorem bytes_of_cut? {isList : Bool} {length : Nat} {bs : Bytes} {f : Framed}
    (h : cut? isList length bs = some f) :
    f.isList = isList ∧ f.body.length = length ∧ f.body ++ f.rest = bs := by
  rw [cut?] at h
  split at h
  · next hle =>
    cases h
    simp [hle]
  · cases h

theorem bytes_of_cutLong? {isList : Bool} {k : Nat} {bs : Bytes} {f : Framed} (h : cutLong? isList k bs = some f) :
    f.isList = isList ∧ 56 ≤ f.body.length ∧ (Bytes.minimal f.body.length).length = k ∧
      Bytes.minimal f.body.length ++ (f.body ++ f.rest) = bs := by
  rw [cutLong?] at h
  split at h
  · next hd =>
    obtain ⟨hmin, hk, h56⟩ := hd
    obtain ⟨hlist, hlen, hbytes⟩ := bytes_of_cut? h
    rw [hlen, ← hmin, hbytes]
    exact ⟨hlist, h56, hk, List.take_append_drop k bs⟩
  · cases h

theorem ofNat_toNat_add {b : UInt8} {k : Nat} (base : Nat) (hle : base ≤ b.toNat) (hk : k = b.toNat - base) :
    UInt8.ofNat (base + k) = b := by
  rw [hk, Nat.add_sub_cancel' hle, UInt8.ofNat_toNat]

theorem bytes_of_frame? {bs : Bytes} {f : Framed} (h : frame? bs = some f) : f.bytes = bs := by
  match bs, h with
  | b :: rest, h =>
    rw [frame?] at h
    by_cases h80 : b.toNat < 0x80
    · rw [if_pos h80] at h
      cases h
      simp [Framed.bytes, encodeString, show b < 0x80 from h80]
    rw [if_neg h80] at h
    by_cases hb8 : b.toNat < 0xb8
    · -- a short string, whose own encoding must start with `b`
      rw [if_pos hb8] at h
      cases hcut : cut? false (b.toNat - 0x80) rest with
      | none => simp [hcut] at h
      | some g =>
        simp only [hcut, Option.ite_none_right_eq_some, Option.some.injEq] at h
        obtain ⟨hstrict, rfl⟩ := h
        obtain ⟨hlist, -, hbytes⟩ := bytes_of_cut? hcut
        simp [Framed.bytes, hlist, hstrict, hbytes]
    rw [if_neg hb8] at h
    by_cases hc0 : b.toNat < 0xc0
    · rw [if_pos hc0] at h
      obtain ⟨hlist, h56, hk, hbytes⟩ := bytes_of_cutLong? h
      have hb := ofNat_toNat_add (b := b) (0x80 + 55) (by omega) hk
      rw [Framed.bytes, hlist, if_neg (by simp), encodeString_of_ne _ (by omega), head_long h56, hb]
      simp [hbytes]
    rw [if_neg hc0] at h
    by_cases hf8 : b.toNat < 0xf8
    · rw [if_pos hf8] at h
      obtain ⟨hlist, hlen, hbytes⟩ := bytes_of_cut? h
      have hb := ofNat_toNat_add (b := b) 0xc0 (by omega) hlen
      rw [Framed.bytes, hlist, if_pos rfl, head_short (by omega), hb]
      simp [hbytes]
    · rw [if_neg hf8] at h
      obtain ⟨hlist, h56, hk, hbytes⟩ := bytes_of_cutLong? h
      have hb := ofNat_toNat_add (b := b) (0xc0 + 55) (by omega) hk
      rw [Framed.bytes, hlist, if_pos rfl, head_long h56, hb]
      simp [hbytes]

/-- One step of the reader: a frame is a string, or a list if its body can be read as items. -/
theorem readItem_eq_some {fuel : Nat} {bs rest : Bytes} {item : Rlp}
    (h : readItem (fuel + 1) bs = some (item, rest)) :
    ∃ f : Framed, f.bytes = bs ∧ f.rest = rest ∧
      ((f.isList = true ∧ ∃ items, readItems fuel f.body = some items ∧ item = list items) ∨
        (f.isList = false ∧ item = string f.body)) := by
  rw [readItem] at h
  cases hframe : frame? bs with
  | none => simp [hframe] at h
  | some f =>
    refine ⟨f, bytes_of_frame? hframe, ?_⟩
    simp only [hframe] at h
    cases hlist : f.isList with
    | false =>
      simp only [hlist, Bool.false_eq_true, if_false, Option.some.injEq, Prod.mk.injEq] at h
      exact ⟨h.2, .inr ⟨rfl, h.1.symm⟩⟩
    | true =>
      simp only [hlist, if_true, Option.map_eq_some_iff, Prod.mk.injEq] at h
      obtain ⟨items, hitems, hitem, hrest⟩ := h
      exact ⟨hrest, .inl ⟨rfl, items, hitems, hitem.symm⟩⟩

theorem encode_of_read (fuel : Nat) :
    (∀ bs item rest, readItem fuel bs = some (item, rest) → encode item ++ rest = bs) ∧
      ∀ bs items, readItems fuel bs = some items → encodeItems items = bs := by
  induction fuel with
  | zero => simp [readItem, readItems]
  | succ fuel ih =>
    obtain ⟨ihItem, ihItems⟩ := ih
    constructor
    · intro bs item rest h
      obtain ⟨f, rfl, rfl, ⟨hlist, items, hitems, rfl⟩ | ⟨hlist, rfl⟩⟩ := readItem_eq_some h
      · simp [encode, Framed.bytes, hlist, ihItems f.body items hitems]
      · simp [encode, Framed.bytes, hlist]
    · intro bs items h
      rw [readItems] at h
      by_cases hnil : bs = []
      · rw [if_pos hnil, Option.some.injEq] at h
        rw [← h, hnil, encodeItems]
      · rw [if_neg hnil] at h
        cases hitem : readItem fuel bs with
        | none => simp [hitem] at h
        | some r =>
          obtain ⟨item, rest⟩ := r
          simp only [hitem, Option.map_eq_some_iff] at h
          obtain ⟨items, hitems, rfl⟩ := h
          rw [encodeItems, ihItems rest items hitems, ihItem bs item rest hitem]

/-- The reader takes the one encoding that the writer gives, and nothing behind it. -/
theorem encode_of_decode? {bs : Bytes} {item : Rlp} (h : decode? bs = some item) : encode item = bs := by
  rw [decode?] at h
  split at h
  · next hread =>
    cases h
    simpa using (encode_of_read _).1 bs item [] hread
  · cases h

@[simp] theorem toNat?_nat (n : Nat) : (nat n).toNat? = some n := by
  simp [nat, toNat?]

theorem eq_nat_of_toNat? {item : Rlp} {n : Nat} (h : item.toNat? = some n) : item = nat n := by
  cases item with
  | list items => cases h
  | string bs =>
    rw [toNat?] at h
    split at h
    · next hmin =>
      cases h
      rw [nat, ← hmin]
    · cases h

end Keyring.Evm.Rlp
