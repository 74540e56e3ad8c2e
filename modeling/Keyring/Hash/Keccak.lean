import Keyring.Bytes

/-! Keccak-256: the sponge over twenty-five 64-bit lanes with a rate of 136 bytes and the padding byte 1.
The digest is the first four lanes, so it has 32 bytes. -/
namespace Keyring
namespace Keccak

/-- The lanes row by row: lane `(x, y)` stands at `x + 5 * y`. -/
abbrev State := Array UInt64

def rotl (x : UInt64) (n : Nat) : UInt64 :=
  if n = 0 then x else (x <<< UInt64.ofNat n) ||| (x >>> UInt64.ofNat (64 - n))

def roundConstants : List UInt64 := [
  0x0000000000000001, 0x0000000000008082, 0x800000000000808a, 0x8000000080008000,
  0x000000000000808b, 0x0000000080000001, 0x8000000080008081, 0x8000000000008009,
  0x000000000000008a, 0x0000000000000088, 0x0000000080008009, 0x000000008000000a,
  0x000000008000808b, 0x800000000000008b, 0x8000000000008089, 0x8000000000008003,
  0x8000000000008002, 0x8000000000000080, 0x000000000000800a, 0x800000008000000a,
  0x8000000080008081, 0x8000000000008080, 0x0000000080000001, 0x8000000080008008]

/-- For each lane of the new state, the old lane that moves there and how far it turns. -/
def moves : List (Nat × Nat) := [
  (0, 0), (6, 44), (12, 43), (18, 21), (24, 14),
  (3, 28), (9, 20), (10, 3), (16, 45), (22, 61),
  (1, 1), (7, 6), (13, 25), (19, 8), (20, 18),
  (4, 27), (5, 36), (11, 10), (17, 15), (23, 56),
  (2, 62), (8, 55), (14, 39), (15, 41), (21, 2)]

def lane (s : State) (i : Nat) : UInt64 := s.getD i 0

/-- Adds to each lane the parities of two columns. -/
def theta (s : State) : State :=
  let c := (Array.range 5).map fun x =>
    lane s x ^^^ lane s (x + 5) ^^^ lane s (x + 10) ^^^ lane s (x + 15) ^^^ lane s (x + 20)
  let d := (Array.range 5).map fun x => lane c ((x + 4) % 5) ^^^ rotl (lane c ((x + 1) % 5)) 1
  (Array.range 25).map fun i => lane s i ^^^ lane d (i % 5)

def turn (s : State) : State := (moves.map fun (i, n) => rotl (lane s i) n).toArray

def chi (s : State) : State :=
  (Array.range 25).map fun i =>
    let row := i / 5 * 5
    lane s i ^^^ ((~~~ lane s (row + (i + 1) % 5)) &&& lane s (row + (i + 2) % 5))

def round (s : State) (k : UInt64) : State :=
  let t := chi (turn (theta s))
  t.setIfInBounds 0 (lane t 0 ^^^ k)

def permute (s : State) : State := roundConstants.foldl round s

def word (a b c d e f g h : UInt8) : UInt64 :=
  a.toUInt64 ||| (b.toUInt64 <<< 8) ||| (c.toUInt64 <<< 16) ||| (d.toUInt64 <<< 24)
    ||| (e.toUInt64 <<< 32) ||| (f.toUInt64 <<< 40) ||| (g.toUInt64 <<< 48) ||| (h.toUInt64 <<< 56)

def words : Bytes → List UInt64
  | a :: b :: c :: d :: e :: f :: g :: h :: rest => word a b c d e f g h :: words rest
  | _ => []

def rate : Nat := 136

/-- A byte 1, zeros, and the top bit of the last byte of the block. -/
def pad (m : Bytes) : Bytes :=
  let gap := rate - m.length % rate
  if gap = 1 then m ++ [0x81] else m ++ 0x01 :: List.replicate (gap - 2) 0 ++ [0x80]

/-- Feeds `k` blocks of seventeen lanes. -/
def absorb : (k : Nat) → State → List UInt64 → State
  | 0, s, _ => s
  | k + 1, s, ws =>
    let block := (ws.take 17).toArray
    absorb k (permute ((Array.range 25).map fun i => lane s i ^^^ lane block i)) (ws.drop 17)

def wordBytes (x : UInt64) : Bytes :=
  [x.toUInt8, (x >>> 8).toUInt8, (x >>> 16).toUInt8, (x >>> 24).toUInt8,
    (x >>> 32).toUInt8, (x >>> 40).toUInt8, (x >>> 48).toUInt8, (x >>> 56).toUInt8]

def digest (s : State) : Bytes :=
  wordBytes (lane s 0) ++ wordBytes (lane s 1) ++ wordBytes (lane s 2) ++ wordBytes (lane s 3)

@[simp] theorem length_digest (s : State) : (digest s).length = 32 := rfl

end Keccak

/-- The Keccak-256 digest. -/
def keccak256 (m : Bytes) : Bytes :=
  let ws := Keccak.words (Keccak.pad m)
  Keccak.digest (Keccak.absorb (ws.length / 17) (Array.replicate 25 0) ws)

@[simp] theorem length_keccak256 (m : Bytes) : (keccak256 m).length = 32 := rfl

end Keyring
