/-! Byte strings, and the natural numbers they spell with the most significant byte first.
`ofNat` keeps a given width, `minimal` writes no leading zero, and `toNat` reads both back. -/
namespace Keyring

-- `^` on numbers is the power of the core library, also where Mathlib would put its own first.
attribute [instance(high), default_instance 20000] instPowNat

abbrev Bytes := List UInt8

namespace Bytes

def toNat (bs : Bytes) : Nat := bs.foldl (fun n b => 256 * n + b.toNat) 0

/-- The low `w` bytes of `n`, padded with zeros in front. -/
def ofNat : (w n : Nat) → Bytes
  | 0, _ => []
  | w + 1, n => ofNat w (n / 256) ++ [UInt8.ofNat n]

/-- How many bytes the number takes without leading zeros; zero takes none. -/
def width (n : Nat) : Nat := if n = 0 then 0 else n.log2 / 8 + 1

/-- The bytes of `n` without leading zeros. -/
def minimal (n : Nat) : Bytes := ofNat (width n) n

def utf8 (s : String) : Bytes := s.toList.flatMap String.utf8EncodeChar

@[simp] theorem length_ofNat (w n : Nat) : (ofNat w n).length = w := by
  induction w generalizing n with
  | zero => rfl
  | succ w ih => simp [ofNat, ih]

theorem toNat_append_singleton (bs : Bytes) (b : UInt8) :
    toNat (bs ++ [b]) = 256 * toNat bs + b.toNat := by
  simp [toNat, List.foldl_append]

theorem toNat_ofNat (w n : Nat) : toNat (ofNat w n) = n % 256 ^ w := by
  induction w generalizing n with
  | zero => simp [ofNat, toNat, Nat.mod_one]
  | succ w ih =>
    rw [ofNat, toNat_append_singleton, ih, Nat.pow_succ, Nat.mul_comm (256 ^ w) 256, Nat.mod_mul,
      UInt8.toNat_ofNat']
    omega

end Bytes
end Keyring
