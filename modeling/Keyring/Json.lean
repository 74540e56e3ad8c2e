import Keyring.Bytes

/-! JSON values. Members keep their order and may repeat a key, as a text has them; `canonical?` gives the form in
which every key stands once, in ascending order. An object that starts with the key `quoteKey` quotes a value: it
stands for the one that its text spells. A literal can be well formed and still have no value: a string with an
unpaired surrogate, an object with such a key, and a number out of range are `unreadable`. -/
namespace Keyring

inductive Json where
  | null
  | bool (b : Bool)
  | int (n : Int)
  /-- A number that is no integer, as the bits of a 64-bit float. -/
  | float (bits : UInt64)
  | string (s : String)
  | array (items : List Json)
  | object (members : List (String × Json))
  | unreadable

namespace Json

instance : Inhabited Json := ⟨null⟩

mutual

/-- How deeply arrays and objects are nested. -/
def depth : Json → Nat
  | array items => itemsDepth items + 1
  | object members => membersDepth members + 1
  | _ => 0

def itemsDepth : List Json → Nat
  | [] => 0
  | v :: rest => max v.depth (itemsDepth rest)

def membersDepth : List (String × Json) → Nat
  | [] => 0
  | (_, v) :: rest => max v.depth (membersDepth rest)

end

/-- Puts a member into ascending order of keys, in place of an earlier one with its key. -/
def put (k : String) (v : Json) : List (String × Json) → List (String × Json)
  | [] => [(k, v)]
  | (k', v') :: rest =>
    if k < k' then (k, v) :: (k', v') :: rest
    else if k' < k then (k', v') :: put k v rest
    else (k, v) :: rest

/-- The key of an object that quotes a value. -/
def quoteKey : String := "$serde_json::private::RawValue"

/-- Whether the first of the members has the key of a quote. -/
def isQuote : List (String × Json) → Bool
  | (k, _) :: _ => k == quoteKey
  | [] => false

/-- The text of a quote, which has no other member. -/
def quotedText? : List (String × Json) → Option String
  | [(_, string s)] => some s
  | _ => none

mutual

/-- Every key once and in ascending order, with the last of its values; none if a part is unreadable. `quoted?` reads
the text of a quote. -/
def canonical? (quoted? : String → Option Json) : Json → Option Json
  | unreadable => none
  | array items => (itemsCanonical? quoted? items).map array
  | object members =>
    if isQuote members then (quotedText? members).bind quoted?
    else (membersCanonical? quoted? [] members).map object
  | v => some v

def itemsCanonical? (quoted? : String → Option Json) : List Json → Option (List Json)
  | [] => some []
  | v :: rest =>
    match v.canonical? quoted? with
    | none => none
    | some w => (itemsCanonical? quoted? rest).map (w :: ·)

def membersCanonical? (quoted? : String → Option Json) (done : List (String × Json)) :
    List (String × Json) → Option (List (String × Json))
  | [] => some done
  | (k, v) :: rest =>
    match v.canonical? quoted? with
    | none => none
    | some w => membersCanonical? quoted? (put k w done) rest

end

/-- The value of the last member with a key. -/
def get? (k : String) : Json → Option Json
  | object members => (members.reverse.find? fun m => m.1 == k).map (·.2)
  | _ => none

end Json
end Keyring
