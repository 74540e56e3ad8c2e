import Keyring.Json.Reader

/-! Records in JSON. A record is an object with named members, of which unknown ones are passed over and known ones
stand once, or an array of its fields in order, of which the last ones may be missing if they have a default. -/
namespace Keyring.Json

/-- What a record holds for a field: a value, nothing in an object, or nothing because an array is too short. -/
inductive Slot where
  | given (v : Json)
  | absent
  | short

/-- The member with a key, unless there are two. -/
def member? (members : List (String × Json)) (name : String) : Option Slot :=
  match members.filter fun m => m.1 == name with
  | [] => some .absent
  | [m] => some (.given m.2)
  | _ => none

/-- Gives each of `k` fields the item at its place; none if items are left over. -/
def places? : (k : Nat) → List Json → Option (List Slot)
  | 0, [] => some []
  | 0, _ :: _ => none
  | k + 1, [] => (places? k []).map (Slot.short :: ·)
  | k + 1, v :: rest => (places? k rest).map (Slot.given v :: ·)

/-- The slots of a record, in the order of its field names. -/
def slots? (names : List String) : Json → Option (List Slot)
  | object members => names.mapM (member? members)
  | array items => places? names.length items
  | _ => none

namespace Slot

variable {α : Type}

/-- A field that must be given. -/
def required (read : Json → Option α) : Slot → Option α
  | given v => read v
  | _ => none

/-- A field with a default. -/
def orElse (read : Json → Option α) (default : α) : Slot → Option α
  | given v => read v
  | _ => some default

def nullable (read : Json → Option α) : Json → Option (Option α)
  | null => some none
  | v => (read v).map some

/-- A field that may be null, or absent from an object. -/
def optional (read : Json → Option α) : Slot → Option (Option α)
  | given v => nullable read v
  | absent => some none
  | short => none

end Slot

/-! ### Readers of fields -/

def asString? : Json → Option String
  | string s => some s
  | _ => none

def asBool? : Json → Option Bool
  | bool b => some b
  | _ => none

def asInt? (low high : Int) : Json → Option Int
  | int n => if low ≤ n ∧ n ≤ high then some n else none
  | _ => none

def asWord? (v : Json) : Option Nat := (asInt? 0 (2 ^ 64 - 1) v).map Int.toNat

def asUInt64? (v : Json) : Option UInt64 := (asWord? v).map UInt64.ofNat

def asInt64? (v : Json) : Option Int64 := (asInt? (-(2 ^ 63)) (2 ^ 63 - 1) v).map Int64.ofInt

def asStrings? : Json → Option (List String)
  | array items => items.mapM asString?
  | _ => none

/-- A name by itself, or as the only key of an object that holds null. -/
def asName? : Json → Option String
  | string s => some s
  | object [(k, null)] => some k
  | _ => none

/-- How deeply a text may nest arrays and objects where its values are kept. -/
def maxDepth : Nat := 127

/-- The canonical form of the value that a text spells, for quotes nested less than `fuel` deep. -/
def ofQuote? : (fuel : Nat) → String → Option Json
  | 0, _ => none
  | fuel + 1, s =>
    match parse? s with
    | none => none
    | some v => if v.depth ≤ maxDepth then v.canonical? (ofQuote? fuel) else none

/-- The canonical form of a value whose nesting stays within a limit. A quote is shorter than the text it stands in,
so its length bounds how deeply quotes are nested. -/
def asValue? (limit : Nat) (v : Json) : Option Json :=
  if v.depth ≤ limit then v.canonical? fun s => ofQuote? s.length s else none

end Keyring.Json
