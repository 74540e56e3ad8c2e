import Keyring.Decimal.Binary64
import Keyring.Hex
import Keyring.Json

/-! Writing JSON text, either compact or with one item a line and an indent of two spaces. Only quotes, backslashes
and control characters are escaped. -/
namespace Keyring.Json

def escape (c : Char) : List Char :=
  if c = '"' then ['\\', '"']
  else if c = '\\' then ['\\', '\\']
  else if c = '\x08' then ['\\', 'b']
  else if c = '\x0c' then ['\\', 'f']
  else if c = '\n' then ['\\', 'n']
  else if c = '\r' then ['\\', 'r']
  else if c = '\t' then ['\\', 't']
  else if c.toNat < 32 then '\\' :: 'u' :: '0' :: '0' :: Hex.pair (UInt8.ofNat c.toNat)
  else [c]

def quote (s : String) : List Char := '"' :: (s.toList.flatMap escape ++ ['"'])

def intText (n : Int) : List Char :=
  if n < 0 then '-' :: Nat.toDigits 10 n.natAbs else Nat.toDigits 10 n.natAbs

mutual

/-- The compact text. A value that has no text is written as null. -/
def render : Json → List Char
  | null | unreadable => "null".toList
  | bool true => "true".toList
  | bool false => "false".toList
  | int n => intText n
  | float bits => Decimal.Binary64.text bits
  | string s => quote s
  | array [] => ['[', ']']
  | array (v :: items) => '[' :: (v.render ++ renderItems items)
  | object [] => ['\x7b', '\x7d']
  | object ((k, v) :: members) => '\x7b' :: (quote k ++ ':' :: v.render ++ renderMembers members)

/-- Further items and the closing bracket. -/
def renderItems : List Json → List Char
  | [] => [']']
  | v :: rest => ',' :: (v.render ++ renderItems rest)

/-- Further members and the closing brace. -/
def renderMembers : List (String × Json) → List Char
  | [] => ['\x7d']
  | (k, v) :: rest => ',' :: (quote k ++ ':' :: v.render ++ renderMembers rest)

end

def compact (v : Json) : String := String.ofList v.render

def newline (indent : Nat) : List Char := '\n' :: List.replicate (2 * indent) ' '

mutual

/-- The text with one item a line, at a level of indent. -/
def layout (indent : Nat) : Json → List Char
  | array (v :: items) =>
    '[' :: (newline (indent + 1) ++ v.layout (indent + 1) ++ layoutItems indent items)
  | object ((k, v) :: members) =>
    '\x7b' :: (newline (indent + 1) ++ quote k ++ ':' :: ' ' :: v.layout (indent + 1)
      ++ layoutMembers indent members)
  | v => v.render

def layoutItems (indent : Nat) : List Json → List Char
  | [] => newline indent ++ [']']
  | v :: rest => ',' :: (newline (indent + 1) ++ v.layout (indent + 1) ++ layoutItems indent rest)

def layoutMembers (indent : Nat) : List (String × Json) → List Char
  | [] => newline indent ++ ['\x7d']
  | (k, v) :: rest =>
    ',' :: (newline (indent + 1) ++ quote k ++ ':' :: ' ' :: v.layout (indent + 1)
      ++ layoutMembers indent rest)

end

def pretty (v : Json) : String := String.ofList (v.layout 0)

end Keyring.Json
