/-! Decimal numbers and 64-bit binary floating point. `Binary64.ofScientific?` reads a whole number with a power of
ten, `shortest` finds the fewest digits that read back to a value, and `text` lays these digits out. -/
namespace Keyring.Decimal

/-- A positive number `digits * 10 ^ exponent`. -/
structure Scaled where
  digits : Nat
  exponent : Int

namespace Binary64

/-- The largest power of ten in the range of the format is `10 ^ 308`. -/
def maxPower : Nat := 308

def powerOfTen (k : Nat) : Float := Float.ofScientific 1 false k

/-- `significand * 10 ^ exponent` for a 64-bit significand, rounded once to convert it and once for each
scaling; none beyond the range. -/
def ofScientific? (significand : Nat) (exponent : Int) : Option Float :=
  let f := (UInt64.ofNat significand).toFloat
  let k := exponent.natAbs
  if significand = 0 then some f
  else if 0 ≤ exponent then
    if maxPower < k then none
    else
      let g := f * powerOfTen k
      if g.isInf then none else some g
  else if k ≤ maxPower then some (f / powerOfTen k)
  else if k ≤ 2 * maxPower then some (f / powerOfTen maxPower / powerOfTen (k - maxPower))
  else some 0

/-- A positive finite value as `mantissa * 2 ^ exponent`, and whether the gap below it is half the gap above. -/
structure Parts where
  mantissa : Nat
  exponent : Int
  narrow : Bool

def parts (bits : UInt64) : Parts :=
  let fraction : Nat := bits.toNat % 2 ^ 52
  let biased : Nat := bits.toNat / 2 ^ 52 % 2 ^ 11
  if biased = 0 then ⟨fraction, -1074, false⟩
  else ⟨2 ^ 52 + fraction, (biased : Int) - 1075, fraction == 0 && 1 < biased⟩

/-- Whether `c / den` rounds to the value `num / den'` of `p`, where `num` and `c` are scaled alike: it lies no
further off than half a gap, and the midpoint itself goes to the even mantissa. -/
def rounds (p : Parts) (num c : Nat) : Bool :=
  let (gap, diff) := if num ≤ c then (2, c - num) else (if p.narrow then 4 else 2, num - c)
  let scaled := gap * p.mantissa * diff
  scaled < num || (scaled == num && p.mantissa % 2 == 0)

/-- Drops up to `k` zeros at the end. -/
def stripZeros : (k : Nat) → Scaled → Scaled
  | 0, s => s
  | k + 1, s => if s.digits % 10 = 0 then stripZeros k ⟨s.digits / 10, s.exponent + 1⟩ else s

/-- The nearest number of the grid `10 ^ exponent` that rounds to `num / den`. -/
def onGrid? (p : Parts) (num den : Nat) (exponent : Int) : Option Scaled :=
  let n := if exponent ≤ 0 then num * 10 ^ exponent.natAbs else num
  let d := if exponent ≤ 0 then den else den * 10 ^ exponent.natAbs
  let low := n / d
  let rest := n % d
  let up := d < 2 * rest ∨ (d = 2 * rest ∧ low % 2 = 1)
  let near := if up then low + 1 else low
  let far := if up then low else low + 1
  if rounds p n (near * d) then some ⟨near, exponent⟩
  else if rounds p n (far * d) then some ⟨far, exponent⟩
  else none

/-- Tries `k` grids, each ten times as fine as the one before. -/
def search (p : Parts) (num den : Nat) : (k : Nat) → (exponent : Int) → Scaled
  | 0, exponent => ⟨num, exponent⟩
  | k + 1, exponent =>
    match onGrid? p num den exponent with
    | some s => s
    | none => search p num den k (exponent - 1)

def digitCount (n : Nat) : Nat := (Nat.toDigits 10 n).length

/-- The fewest digits that round to a positive finite value; of these, the nearest to it. Seventeen always do. -/
def shortest (bits : UInt64) : Scaled :=
  let p := parts bits
  let num := p.mantissa * 2 ^ p.exponent.toNat
  let den := 2 ^ (-p.exponent).toNat
  let leading := (digitCount (num * 10 ^ 400 / den) : Int) - 401
  stripZeros 20 (search p num den 18 leading)

/-- Positional from `10 ^ (-5)` up to `10 ^ 16`, always with a fraction; else with an exponent that has a sign. -/
def Scaled.layout (s : Scaled) : List Char :=
  let ds := Nat.toDigits 10 s.digits
  let point := ds.length + s.exponent
  if 0 ≤ s.exponent ∧ point ≤ 16 then ds ++ List.replicate s.exponent.toNat '0' ++ ['.', '0']
  else if 0 < point ∧ point ≤ 16 then ds.take point.toNat ++ '.' :: ds.drop point.toNat
  else if -5 < point ∧ point ≤ 0 then '0' :: '.' :: (List.replicate point.natAbs '0' ++ ds)
  else
    let e := point - 1
    ds.take 1 ++ (if ds.length = 1 then [] else '.' :: ds.drop 1)
      ++ 'e' :: (if 0 ≤ e then '+' else '-') :: Nat.toDigits 10 e.natAbs

/-- The text of a finite value. -/
def text (bits : UInt64) : List Char :=
  let sign := if bits.toNat / 2 ^ 63 = 1 then ['-'] else []
  sign ++ if bits.toNat % 2 ^ 63 = 0 then ['0', '.', '0'] else Scaled.layout (shortest bits)

end Binary64
end Keyring.Decimal
