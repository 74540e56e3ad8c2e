import Keyring.Unicode.Composition
import Keyring.Unicode.Mark

/-! The composed normal form: letters and the marks on them are taken apart, marks are put in the order of their
classes, and what makes a composite is put together again. Texts that look the same have the same normal form. -/
namespace Keyring.Unicode

/-- Takes a character apart as long as its first part is a composite, within `fuel` steps. -/
def decompose : (fuel : Nat) → Char → List Char
  | 0, c => [c]
  | fuel + 1, c =>
    match split? c with
    | none => [c]
    | some (a, b) => decompose fuel a ++ [b]

/-- No composite takes more than two steps. -/
def decomposed (cs : List Char) : List Char := cs.flatMap (decompose 2)

/-- Puts a mark behind those of lower classes on the same letter. -/
def place (c : Char) : List Char → List Char
  | [] => [c]
  | d :: rest =>
    if combiningClass c = 0 ∨ combiningClass d = 0 ∨ combiningClass c ≤ combiningClass d then c :: d :: rest
    else d :: place c rest

/-- The marks on each letter in the order of their classes; those of one class keep their order. -/
def ordered (cs : List Char) : List Char := cs.foldr place []

/-- Puts together `base` and the characters behind it that make a composite with it. Passed marks that do not are
`between`, the last one in front; a character joins only over marks of lower classes. -/
def compose (base : Char) (between : List Char) : List Char → List Char
  | [] => base :: between.reverse
  | c :: rest =>
    let reaches := match between with
      | [] => true
      | d :: _ => combiningClass d < combiningClass c
    match if reaches then join? base c else none with
    | some joined => compose joined between rest
    | none =>
      if combiningClass c = 0 then base :: between.reverse ++ compose c [] rest
      else compose base (c :: between) rest

/-- Marks in front of the first letter stay as they are. -/
def composed : List Char → List Char
  | [] => []
  | c :: rest => if combiningClass c = 0 then compose c [] rest else c :: composed rest

def normalForm (cs : List Char) : List Char := composed (ordered (decomposed cs))

end Keyring.Unicode
