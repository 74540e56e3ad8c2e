import Keyring.Json.Literal

/-! Reading JSON text. The reader takes one value from the front of a text and returns what follows; a text is a
value with nothing but blanks around it. -/
namespace Keyring.Json

/-- The value of a string literal, if it has one. -/
def ofSpelled : Option (List Char) → Json
  | some cs => string (String.ofList cs)
  | none => unreadable

/-- An object in which some key has no value has none either. -/
def ofMembers : Option (List (String × Json)) → Json
  | some ms => object ms
  | none => unreadable

def addMember (key : Option (List Char)) (v : Json) (ms : Option (List (String × Json))) :
    Option (List (String × Json)) :=
  match key, ms with
  | some k, some ms => some ((String.ofList k, v) :: ms)
  | _, _ => none

def readKey (cs : List Char) : Option Spelled :=
  match skip cs with
  | '"' :: rest =>
    match readString rest with
    | none => none
    | some (key, rest) =>
      match skip rest with
      | ':' :: rest => some (key, rest)
      | _ => none
  | _ => none

mutual

/-- One value; `fuel` bounds the number of calls. -/
def readValue : (fuel : Nat) → List Char → Option (Json × List Char)
  | 0, _ => none
  | fuel + 1, cs =>
    match skip cs with
    | 'n' :: 'u' :: 'l' :: 'l' :: rest => some (null, rest)
    | 't' :: 'r' :: 'u' :: 'e' :: rest => some (bool true, rest)
    | 'f' :: 'a' :: 'l' :: 's' :: 'e' :: rest => some (bool false, rest)
    | '"' :: rest => (readString rest).map fun r => (ofSpelled r.1, r.2)
    | '[' :: rest =>
      match skip rest with
      | ']' :: rest => some (array [], rest)
      | _ => (readItems fuel rest).map fun r => (array r.1, r.2)
    | '{' :: rest =>
      match skip rest with
      | '}' :: rest => some (object [], rest)
      | _ => (readMembers fuel rest).map fun r => (ofMembers r.1, r.2)
    | cs => (readNumber cs).map fun r => (r.1.value, r.2)

/-- The items of an array and its closing bracket. -/
def readItems : (fuel : Nat) → List Char → Option (List Json × List Char)
  | 0, _ => none
  | fuel + 1, cs =>
    match readValue fuel cs with
    | none => none
    | some (v, rest) =>
      match skip rest with
      | ']' :: rest => some ([v], rest)
      | ',' :: rest => (readItems fuel rest).map fun r => (v :: r.1, r.2)
      | _ => none

/-- The members of an object and its closing brace. -/
def readMembers : (fuel : Nat) → List Char → Option (Option (List (String × Json)) × List Char)
  | 0, _ => none
  | fuel + 1, cs =>
    match readKey cs with
    | none => none
    | some (key, rest) =>
      match readValue fuel rest with
      | none => none
      | some (v, rest) =>
        match skip rest with
        | '}' :: rest => some (addMember key v (some []), rest)
        | ',' :: rest => (readMembers fuel rest).map fun r => (addMember key v r.1, r.2)
        | _ => none

end

/-- Two calls are made for each character at most. -/
def parse? (s : String) : Option Json :=
  match readValue (2 * s.length + 2) s.toList with
  | none => none
  | some (v, rest) => if skip rest = [] then some v else none

end Keyring.Json
