import Keyring.Bytes

/-! RIPEMD-160: two lines of eighty steps over the same words, joined crosswise at the end of each block.
The digest has 20 bytes. -/
namespace Keyring
namespace Ripemd160

structure State where
  a : UInt32
  b : UInt32
  c : UInt32
  d : UInt32
  e : UInt32

def initial : State := ⟨0x67452301, 0xefcdab89, 0x98badcfe, 0x10325476, 0xc3d2e1f0⟩

def leftWords : List Nat := [
  0, 1, 2, 3, 4, 5, 6, 7, 8, 9, 10, 11, 12, 13, 14, 15,
  7, 4, 13, 1, 10, 6, 15, 3, 12, 0, 9, 5, 2, 14, 11, 8,
  3, 10, 14, 4, 9, 15, 8, 1, 2, 7, 0, 6, 13, 11, 5, 12,
  1, 9, 11, 10, 0, 8, 12, 4, 13, 3, 7, 15, 14, 5, 6, 2,
  4, 0, 5, 9, 7, 12, 2, 10, 14, 1, 3, 8, 11, 6, 15, 13]

def rightWords : List Nat := [
  5, 14, 7, 0, 9, 2, 11, 4, 13, 6, 15, 8, 1, 10, 3, 12,
  6, 11, 3, 7, 0, 13, 5, 10, 14, 15, 8, 12, 4, 9, 1, 2,
  15, 5, 1, 3, 7, 14, 6, 9, 11, 8, 12, 2, 10, 0, 4, 13,
  8, 6, 4, 1, 3, 11, 15, 0, 5, 12, 2, 13, 9, 7, 10, 14,
  12, 15, 10, 4, 1, 5, 8, 7, 6, 2, 13, 14, 0, 3, 9, 11]

def leftShifts : List UInt32 := [
  11, 14, 15, 12, 5, 8, 7, 9, 11, 13, 14, 15, 6, 7, 9, 8,
  7, 6, 8, 13, 11, 9, 7, 15, 7, 12, 15, 9, 11, 7, 13, 12,
  11, 13, 6, 7, 14, 9, 13, 15, 14, 8, 13, 6, 5, 12, 7, 5,
  11, 12, 14, 15, 14, 15, 9, 8, 9, 14, 5, 6, 8, 6, 5, 12,
  9, 15, 5, 11, 6, 8, 13, 12, 5, 12, 13, 14, 11, 8, 5, 6]

def rightShifts : List UInt32 := [
  8, 9, 9, 11, 13, 15, 15, 5, 7, 7, 8, 11, 14, 14, 12, 6,
  9, 13, 15, 7, 12, 8, 9, 11, 7, 7, 12, 7, 6, 15, 13, 11,
  9, 7, 15, 11, 8, 6, 6, 14, 12, 13, 5, 14, 13, 13, 7, 5,
  15, 5, 8, 11, 14, 14, 6, 14, 6, 9, 12, 9, 12, 5, 15, 8,
  8, 5, 12, 9, 12, 5, 14, 6, 8, 13, 6, 5, 15, 13, 11, 11]

def leftConstants : List UInt32 := [0x00000000, 0x5a827999, 0x6ed9eba1, 0x8f1bbcdc, 0xa953fd4e]

def rightConstants : List UInt32 := [0x50a28be6, 0x5c4dd124, 0x6d703ef3, 0x7a6d76e9, 0x00000000]

/-- The mixing function of the `i`th of five rounds. -/
def mix (i : Nat) (x y z : UInt32) : UInt32 :=
  match i with
  | 0 => x ^^^ y ^^^ z
  | 1 => (x &&& y) ||| ((~~~ x) &&& z)
  | 2 => (x ||| (~~~ y)) ^^^ z
  | 3 => (x &&& z) ||| (y &&& (~~~ z))
  | _ => x ^^^ (y ||| (~~~ z))

def rotl (x n : UInt32) : UInt32 := (x <<< n) ||| (x >>> (32 - n))

structure Step where
  mixer : Nat
  constant : UInt32
  index : Nat
  shift : UInt32

def left : List Step :=
  (leftWords.zip leftShifts).zipIdx.map fun ((w, s), j) => ⟨j / 16, leftConstants.getD (j / 16) 0, w, s⟩

def right : List Step :=
  (rightWords.zip rightShifts).zipIdx.map fun ((w, s), j) =>
    ⟨4 - j / 16, rightConstants.getD (j / 16) 0, w, s⟩

def step (words : Array UInt32) (s : State) (t : Step) : State :=
  let x := s.a + mix t.mixer s.b s.c s.d + words.getD t.index 0 + t.constant
  ⟨s.e, rotl x t.shift + s.e, s.b, rotl s.c 10, s.d⟩

def compress (s : State) (block : List UInt32) : State :=
  let l := left.foldl (step block.toArray) s
  let r := right.foldl (step block.toArray) s
  ⟨s.b + l.c + r.d, s.c + l.d + r.e, s.d + l.e + r.a, s.e + l.a + r.b, s.a + l.b + r.c⟩

def word (a b c d : UInt8) : UInt32 :=
  a.toUInt32 ||| (b.toUInt32 <<< 8) ||| (c.toUInt32 <<< 16) ||| (d.toUInt32 <<< 24)

def words : Bytes → List UInt32
  | a :: b :: c :: d :: rest => word a b c d :: words rest
  | _ => []

/-- A one bit, zeros up to eight bytes short of a block, and the length in bits, low byte first. -/
def pad (m : Bytes) : Bytes :=
  m ++ 0x80 :: List.replicate ((119 - m.length % 64) % 64) 0 ++ (Bytes.ofNat 8 (8 * m.length)).reverse

/-- Feeds `k` blocks of sixteen words. -/
def absorb : (k : Nat) → State → List UInt32 → State
  | 0, s, _ => s
  | k + 1, s, ws => absorb k (compress s (ws.take 16)) (ws.drop 16)

def wordBytes (x : UInt32) : Bytes :=
  [x.toUInt8, (x >>> 8).toUInt8, (x >>> 16).toUInt8, (x >>> 24).toUInt8]

def State.bytes (s : State) : Bytes :=
  wordBytes s.a ++ wordBytes s.b ++ wordBytes s.c ++ wordBytes s.d ++ wordBytes s.e

@[simp] theorem State.length_bytes (s : State) : s.bytes.length = 20 := rfl

end Ripemd160

/-- The RIPEMD-160 digest. -/
def ripemd160 (m : Bytes) : Bytes :=
  let ws := Ripemd160.words (Ripemd160.pad m)
  (Ripemd160.absorb (ws.length / 16) Ripemd160.initial ws).bytes

@[simp] theorem length_ripemd160 (m : Bytes) : (ripemd160 m).length = 20 := rfl

end Keyring
