import Mathlib.Tactic.Tauto
import Keyring.Bytes

/-! The order of texts by their bytes. A character that comes before another one has the smaller byte at the first
place where they differ, so texts have one order whether they are compared by characters or by bytes. -/
namespace Keyring.Bytes

theorem ofNat_lt_ofNat {m n : Nat} (hm : m < 256) (hn : n < 256) : UInt8.ofNat m < UInt8.ofNat n ↔ m < n := by
  rw [UInt8.lt_iff_toNat_lt, UInt8.toNat_ofNat_of_lt' hm, UInt8.toNat_ofNat_of_lt' hn]

theorem ofNat_inj {m n : Nat} (hm : m < 256) (hn : n < 256) : UInt8.ofNat m = UInt8.ofNat n ↔ m = n := by
  rw [← UInt8.toNat_inj, UInt8.toNat_ofNat_of_lt' hm, UInt8.toNat_ofNat_of_lt' hn]

/-- The bytes of a scalar value, by how many they are. -/
inductive Encoded (n : Nat) : Bytes → Prop where
  | one (h : n < 0x80) : Encoded n [UInt8.ofNat n]
  | two (low : 0x80 ≤ n) (high : n < 0x800) : Encoded n [UInt8.ofNat (192 + n / 64), UInt8.ofNat (128 + n % 64)]
  | three (low : 0x800 ≤ n) (high : n < 0x10000) :
    Encoded n [UInt8.ofNat (224 + n / 4096), UInt8.ofNat (128 + n / 64 % 64), UInt8.ofNat (128 + n % 64)]
  | four (low : 0x10000 ≤ n) (high : n < 0x110000) :
    Encoded n [UInt8.ofNat (240 + n / 262144), UInt8.ofNat (128 + n / 4096 % 64), UInt8.ofNat (128 + n / 64 % 64),
      UInt8.ofNat (128 + n % 64)]

theorem encoded_utf8EncodeChar (c : Char) : Encoded c.toNat (String.utf8EncodeChar c) := by
  have hmax : c.toNat < 0x110000 := by
    rcases c.valid with h | h
    · exact Nat.lt_trans h (by decide)
    · exact h.2
  have htoNat : c.val.toNat = c.toNat := rfl
  simp only [String.utf8EncodeChar, htoNat]
  generalize c.toNat = n at hmax
  have hmod {k m : Nat} (h : k < m) (b : Nat) : k % m + b = b + k := by rw [Nat.mod_eq_of_lt h, Nat.add_comm]
  split
  · exact .one (by omega)
  · split
    · rw [hmod (by omega), Nat.add_comm (n % 64)]
      exact .two (by omega) (by omega)
    · split
      · rw [hmod (by omega), Nat.add_comm (n / 64 % 64), Nat.add_comm (n % 64)]
        exact .three (by omega) (by omega)
      · rw [hmod (by omega), Nat.add_comm (n / 4096 % 64), Nat.add_comm (n / 64 % 64), Nat.add_comm (n % 64)]
        exact .four (by omega) (by omega)

/-- Of two scalar values the smaller one has the smaller bytes, whatever stands behind them. -/
theorem Encoded.append_lt {m n : Nat} {bs cs : Bytes} (hbs : Encoded m bs) (hcs : Encoded n cs) (h : m < n)
    (r r' : Bytes) : bs ++ r < cs ++ r' := by
  -- How many bytes there are shows in the first one. Of bytes equally many, the first that differs decides.
  cases hbs <;> cases hcs <;>
    simp (disch := omega) only [List.cons_append, List.nil_append, List.cons_lt_cons_iff, ofNat_lt_ofNat, ofNat_inj,
      Nat.add_lt_add_iff_left, Nat.add_left_cancel_iff]
  case one.one => exact .inl h
  case two.two =>
    have hdigits : m / 64 < n / 64 ∨ m / 64 = n / 64 ∧ m % 64 < n % 64 := by omega
    tauto
  case three.three =>
    have hdigits : m / 4096 < n / 4096 ∨ m / 4096 = n / 4096 ∧
        (m / 64 % 64 < n / 64 % 64 ∨ m / 64 % 64 = n / 64 % 64 ∧ m % 64 < n % 64) := by omega
    tauto
  case four.four =>
    have hdigits : m / 262144 < n / 262144 ∨ m / 262144 = n / 262144 ∧
        (m / 4096 % 64 < n / 4096 % 64 ∨ m / 4096 % 64 = n / 4096 % 64 ∧
          (m / 64 % 64 < n / 64 % 64 ∨ m / 64 % 64 = n / 64 % 64 ∧ m % 64 < n % 64)) := by omega
    tauto
  all_goals exact .inl (by omega)

theorem utf8EncodeChar_append_lt {c d : Char} (h : c < d) (r r' : Bytes) :
    String.utf8EncodeChar c ++ r < String.utf8EncodeChar d ++ r' :=
  (encoded_utf8EncodeChar c).append_lt (encoded_utf8EncodeChar d) h r r'

theorem flatMap_utf8EncodeChar_lt {cs ds : List Char} (h : cs < ds) :
    cs.flatMap String.utf8EncodeChar < ds.flatMap String.utf8EncodeChar := by
  induction cs generalizing ds with
  | nil =>
    cases ds with
    | nil => cases h
    | cons d ds =>
      obtain ⟨b, tail, hb⟩ := List.exists_cons_of_ne_nil (String.utf8EncodeChar_ne_nil (c := d))
      rw [List.flatMap_cons, hb]
      exact List.nil_lt_cons _ _
  | cons c cs ih =>
    cases ds with
    | nil => cases h
    | cons d ds =>
      rw [List.flatMap_cons, List.flatMap_cons]
      rcases List.cons_lt_cons_iff.1 h with hlt | ⟨rfl, hlt⟩
      · exact utf8EncodeChar_append_lt hlt _ _
      · exact List.append_left_lt (ih hlt)

/-- The order of texts is that of their bytes. -/
theorem utf8_lt_iff {s t : String} : utf8 s < utf8 t ↔ s < t := by
  constructor
  · intro h
    refine Decidable.byContradiction fun hle => ?_
    by_cases hgt : t < s
    · have hlt := flatMap_utf8EncodeChar_lt (String.lt_iff.1 hgt)
      exact List.lt_asymm h hlt
    · rw [String.le_antisymm (String.not_lt.1 hgt) (String.not_lt.1 hle)] at h
      exact List.lt_irrefl _ h
  · intro h
    exact flatMap_utf8EncodeChar_lt (String.lt_iff.1 h)

end Keyring.Bytes
