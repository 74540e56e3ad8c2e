/-! Punycode: labels outside ASCII as ASCII text. The ASCII characters stand first, and each digit run after them
inserts one further character, in the order of code points. -/
namespace Keyring.Url.Punycode

def digit? (c : Char) : Option Nat :=
  if 'a' ≤ c ∧ c ≤ 'z' then some (c.toNat - 97)
  else if '0' ≤ c ∧ c ≤ '9' then some (c.toNat - 22)
  else none

def threshold (k bias : Nat) : Nat := if k ≤ bias then 1 else if bias + 26 ≤ k then 26 else k - bias

/-- A number whose digits count ever more, ended by a digit below its threshold. Weights have 32 bits. -/
def readDelta : (k bias weight : Nat) → List Char → Option (Nat × List Char)
  | _, _, _, [] => none
  | k, bias, weight, c :: rest =>
    match digit? c with
    | none => none
    | some d =>
      let t := threshold k bias
      if d < t then some (d * weight, rest)
      else if weight * (36 - t) < 2 ^ 32 then
        (readDelta (k + 36) bias (weight * (36 - t)) rest).map fun r => (d * weight + r.1, r.2)
      else none

/-- Divides by 35 as often as it takes, within `fuel` steps. -/
def damp : (fuel delta k : Nat) → Nat × Nat
  | 0, delta, k => (delta, k)
  | fuel + 1, delta, k => if 455 < delta then damp fuel (delta / 35) (k + 36) else (delta, k)

def adapt (delta count : Nat) (first : Bool) : Nat :=
  let delta := if first then delta / 700 else delta / 2
  let (delta, k) := damp delta (delta + delta / count) 0
  k + 36 * delta / (delta + 38)

structure State where
  output : List Char
  next : Nat
  index : Nat
  bias : Nat

/-- Inserts one character for each number, of which there are `fuel` at most. -/
def insertAll : (fuel : Nat) → State → List Char → Option (List Char)
  | 0, s, cs => if cs = [] then some s.output else none
  | fuel + 1, s, cs =>
    if cs = [] then some s.output
    else
      match readDelta 36 s.bias 1 cs with
      | none => none
      | some (delta, rest) =>
        let count := s.output.length + 1
        let code := s.next + (s.index + delta) / count
        let index := (s.index + delta) % count
        if s.index + delta < 2 ^ 32 ∧ code.isValidChar then
          let output := s.output.take index ++ Char.ofNat code :: s.output.drop index
          insertAll fuel ⟨output, code, index + 1, adapt delta count (s.next == 128 && s.index == 0)⟩ rest
        else none

/-- Reads a label in small letters, without the mark that it starts with. At least one digit run stands behind the
last hyphen, and no hyphen stands in front of them if no other character does. -/
def decode? (label : List Char) : Option (List Char) :=
  let tail := (label.reverse.takeWhile (· != '-')).reverse
  let front := label.take (label.length - tail.length)
  if tail = [] ∨ front = ['-'] ∨ front.any (0x80 ≤ ·.toNat) then none
  else insertAll tail.length ⟨front.dropLast, 128, 0, 72⟩ tail

end Keyring.Url.Punycode
