import Keyring.Text.Numeral

/-! Properties of code points as data: sets of them, as runs, and maps from them to sequences. Both are written as
text, with code points in hexadecimal and blanks between the entries. -/
namespace Keyring.Unicode

/-- The code points from `first` to `last`. -/
structure Run where
  first : Nat
  last : Nat
deriving DecidableEq, Repr

abbrev Runs := List Run

def Run.contains (r : Run) (c : Char) : Bool := r.first ≤ c.toNat && c.toNat ≤ r.last

def Runs.contains (rs : Runs) (c : Char) : Bool := rs.any (·.contains c)

/-- The pieces of a text around a mark. -/
def pieces (mark text : String) : List String := text.splitOn mark

/-- The pieces of a text between blanks and line ends. -/
def words (text : String) : List String :=
  ((pieces "\n" text).flatMap (pieces " ")).filter (· != "")

def codePoint (s : String) : Nat := (Text.numeral? 16 s.toList).getD 0

/-- One code point, or the first and the last one around a hyphen. -/
def Run.ofText (s : String) : Run :=
  match pieces "-" s with
  | [first, last] => ⟨codePoint first, codePoint last⟩
  | _ => ⟨codePoint s, codePoint s⟩

def Runs.ofText (s : String) : Runs := (words s).map Run.ofText

/-- What the code points of a run stand for: the code points of another run, one for one, or all the same sequence. -/
inductive Image where
  | run (first : Nat)
  | sequence (points : List Nat)

structure Entry where
  source : Run
  image : Image

/-- The entries of a map, in the order of their code points. -/
abbrev Entries := List Entry

def Entry.apply (e : Entry) (c : Char) : List Char :=
  match e.image with
  | .run first => [Char.ofNat (first + (c.toNat - e.source.first))]
  | .sequence points => points.map Char.ofNat

def Entries.get? (es : Entries) (c : Char) : Option (List Char) :=
  (es.find? (·.source.contains c)).map (·.apply c)

/-- An entry that starts at a code point. Dots separate the code points of a sequence. -/
def Entry.ofText (first : Nat) (s : String) : Entry :=
  match pieces "." s with
  | [_] =>
    let target := Run.ofText s
    ⟨⟨first, first + (target.last - target.first)⟩, .run target.first⟩
  | points => ⟨⟨first, first⟩, .sequence (points.map codePoint)⟩

/-- Entries that follow each other without a gap. -/
def Entries.ofRow (first : Nat) : List String → Entries
  | [] => []
  | s :: rest =>
    let e := Entry.ofText first s
    e :: ofRow (e.source.last + 1) rest

/-- Each row holds its first code point, a colon and its entries with commas between them. -/
def Entries.ofText (s : String) : Entries :=
  (words s).flatMap fun row =>
    match pieces ":" row with
    | [first, entries] => ofRow (codePoint first) (pieces "," entries)
    | _ => []

end Keyring.Unicode
