import Keyring.Store

/-! Files that stores are kept in. A store is opened by a path, and directories that the path needs are made on the
way. A file is empty, a table, or something else, which no store can be opened from; nor can a file be opened twice
at a time. Names and paths have a limited length. -/
namespace Keyring

inductive File where
  | empty
  | table (table : Table)
  | other

/-- The names on the way from the working directory to a file. A path from the root starts with an empty name. -/
abbrev Path := List String

structure Disk where
  directories : List Path
  files : List (Path × File)
  /-- The files that are open. -/
  held : List Path

namespace Path

/-- What stands in front of the first slash, and the segments behind it. -/
def split : List Char → List Char × List (List Char)
  | [] => ([], [])
  | c :: cs =>
    let (first, rest) := split cs
    if c = '/' then ([], first :: rest) else (c :: first, rest)

def segments (s : String) : List String :=
  let (first, rest) := split s.toList
  (first :: rest).map String.ofList

/-- The names of a path, without the segments that lead nowhere. -/
def ofString (s : String) : Path :=
  let names := (segments s).filter fun n => n != "" && n != "."
  if s.toList.head? = some '/' then "" :: names else names

/-- Whether a path by its text can only mean a directory. -/
def isDirectoryText (s : String) : Bool := ["", ".", ".."].contains ((segments s).getLast?.getD "")

/-- A path has less than 4096 bytes, and none of them is zero. -/
def isUsableText (s : String) : Bool := s.utf8ByteSize < 4096 && !s.toList.contains '\x00'

def isUsableName (name : String) : Bool := name.utf8ByteSize ≤ 255

/-- The text in front of the last name and the slashes around it. -/
def parentText (s : String) : String :=
  let isSlash := fun c : Char => c == '/'
  String.ofList (((s.toList.reverse.dropWhile isSlash).dropWhile (!isSlash ·)).dropWhile isSlash).reverse

/-- Goes on by one name; `..` leads back. -/
def step (here : Path) (name : String) : Path :=
  if name = ".." ∧ here ≠ [] ∧ here.getLast? ≠ some ".." then here.dropLast else here ++ [name]

end Path

namespace Disk

def empty : Disk := ⟨[], [], []⟩

def file? (d : Disk) (p : Path) : Option File := d.files.lookup p

/-- The working directory, the root and the directories above are always there. -/
def isDirectory (d : Disk) (p : Path) : Bool :=
  p.all (fun n => n == ".." || n == "") || d.directories.contains p

def write (d : Disk) (p : Path) (f : File) : Disk :=
  { d with files := d.files.filter (fun e => e.1 != p) ++ [(p, f)] }

/-- Walks along names and makes the directories that are missing; a file on the way stops it, and so does a name
that is too long. -/
def makeDirectories (d : Disk) (here : Path) : List String → Except StoreError Path × Disk
  | [] => (.ok here, d)
  | name :: rest =>
    let next := Path.step here name
    if d.isDirectory next then d.makeDirectories next rest
    else
      if (d.file? next).isSome ∨ Path.isUsableName name = false then (.error .io, d)
      else { d with directories := next :: d.directories }.makeDirectories next rest

/-- Opens a file, unless it is open or no store, and says which one is held from now on. -/
def hold (d : Disk) (p : Path) : Except StoreError (Path × Store) × Disk :=
  if p ∈ d.held then (.error .database, d)
  else
    match d.file? p with
    | some .other => (.error .database, d)
    | some (.table t) => (.ok (p, { table := t }), { d with held := p :: d.held })
    | some .empty | none => (.ok (p, .empty), { d.write p (.table .empty) with held := p :: d.held })

/-- Opens the store at a path, or makes an empty one. -/
def openStore (d : Disk) (path : String) : Except StoreError (Path × Store) × Disk :=
  let names := Path.ofString path
  if Path.isUsableText (Path.parentText path) = false then (.error .io, d)
  else
    match d.makeDirectories [] names.dropLast with
    | (.error e, d) => (.error e, d)
    | (.ok parent, d) =>
      match names.getLast? with
      | none => (.error .database, d)
      | some name =>
        let p := parent ++ [name]
        if Path.isUsableText path = false ∨ Path.isUsableName name = false ∨ Path.isDirectoryText path
            ∨ d.isDirectory p then
          (.error .database, d)
        else d.hold p

/-- Lets go of a file and leaves a table in it. -/
def close (d : Disk) (p : Path) (s : Store) : Disk :=
  { d.write p (.table s.table) with held := d.held.filter (· != p) }

end Disk
end Keyring
