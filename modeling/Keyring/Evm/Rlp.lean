import Keyring.Bytes

/-! The recursive length encoding of byte strings and lists. The reader is strict: it takes the shortest form of a
length only, and a number only without leading zeros. -/
namespace Keyring.Evm

inductive Rlp where
  | string (bs : Bytes)
  | list (items : List Rlp)

namespace Rlp

/-- A number is the string of its bytes without leading zeros. -/
def nat (n : Nat) : Rlp := string (Bytes.minimal n)

/-- The head of a string or list of `length` bytes; `base` is `0x80` for strings and `0xc0` for lists. -/
def head (base length : Nat) : Bytes :=
  if length < 56 then [UInt8.ofNat (base + length)]
  else
    let digits := Bytes.minimal length
    UInt8.ofNat (base + 55 + digits.length) :: digits

def encodeString : Bytes → Bytes
  | [b] => if b < 0x80 then [b] else [0x81, b]
  | bs => head 0x80 bs.length ++ bs

mutual

def encode : Rlp → Bytes
  | string bs => encodeString bs
  | list items =>
    let body := encodeItems items
    head 0xc0 body.length ++ body

def encodeItems : List Rlp → Bytes
  | [] => []
  | item :: rest => encode item ++ encodeItems rest

end

/-! ### Reading -/

/-- What stands in front of a string of bytes: the content of a string or list, and what follows it. -/
structure Framed where
  isList : Bool
  body : Bytes
  rest : Bytes

def cut? (isList : Bool) (length : Nat) (bs : Bytes) : Option Framed :=
  if length ≤ bs.length then some ⟨isList, bs.take length, bs.drop length⟩ else none

/-- A length of `k` bytes, which must need them all, and what it measures, which must need a long form. -/
def cutLong? (isList : Bool) (k : Nat) (bs : Bytes) : Option Framed :=
  let digits := bs.take k
  let length := Bytes.toNat digits
  if digits = Bytes.minimal length ∧ digits.length = k ∧ 56 ≤ length then cut? isList length (bs.drop k) else none

def frame? : Bytes → Option Framed
  | [] => none
  | b :: rest =>
    let n := b.toNat
    if n < 0x80 then some ⟨false, [b], rest⟩
    else if n < 0xb8 then
      match cut? false (n - 0x80) rest with
      | some f => if encodeString f.body = b :: f.body then some f else none
      | none => none
    else if n < 0xc0 then cutLong? false (n - 0xb7) rest
    else if n < 0xf8 then cut? true (n - 0xc0) rest
    else cutLong? true (n - 0xf7) rest

mutual

def readItem : (fuel : Nat) → Bytes → Option (Rlp × Bytes)
  | 0, _ => none
  | fuel + 1, bs =>
    match frame? bs with
    | none => none
    | some f =>
      if f.isList then (readItems fuel f.body).map fun items => (list items, f.rest)
      else some (string f.body, f.rest)

/-- Items up to the end. -/
def readItems : (fuel : Nat) → Bytes → Option (List Rlp)
  | 0, _ => none
  | fuel + 1, bs =>
    if bs = [] then some []
    else
      match readItem fuel bs with
      | none => none
      | some (item, rest) => (readItems fuel rest).map (item :: ·)

end

/-- Two calls are made for each byte at most. -/
def decode? (bs : Bytes) : Option Rlp :=
  match readItem (2 * bs.length + 2) bs with
  | some (item, []) => some item
  | _ => none

def toNat? : Rlp → Option Nat
  | string bs => if bs = Bytes.minimal (Bytes.toNat bs) then some (Bytes.toNat bs) else none
  | list _ => none

end Rlp
end Keyring.Evm
