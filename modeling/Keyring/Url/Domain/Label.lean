import Keyring.Unicode.Direction
import Keyring.Unicode.Joining
import Keyring.Unicode.NormalForm
import Keyring.Url.Domain.Mapping
import Keyring.Url.Punycode

/-! The labels of a domain. A label outside ASCII does not start with a mark, holds joiners only where they matter,
and keeps to one direction if the domain has letters that are written from the right. A label in Punycode must spell
one that could stand there by itself. -/
namespace Keyring.Url

open Unicode

def isAscii (c : Char) : Bool := c.toNat < 0x80

/-! ### Joiners -/

def nonJoiner : Char := '\u200c'

def joiner : Char := '\u200d'

/-- Whether the next letter, past characters that joining passes over, is of a kind. -/
def meets (kind : Char → Bool) : List Char → Bool
  | [] => false
  | c :: rest => kind c || (isPassedOver c && meets kind rest)

/-- A joiner stands behind a virama; one that keeps letters apart also between two that would join. `before` is what
stands in front of it, backwards. -/
def joinerFits (before : List Char) (c : Char) (after : List Char) : Bool :=
  match before with
  | [] => false
  | d :: _ =>
    combiningClass d == virama || (c == nonJoiner && meets joinsBehind before && meets joinsBefore after)

def joinersFit (before : List Char) : List Char → Bool
  | [] => true
  | c :: rest =>
    ((c != nonJoiner && c != joiner) || joinerFits before c rest) && joinersFit (c :: before) rest

/-! ### Direction -/

/-- Whether a character gives a domain letters or digits that are written from the right. -/
def turnsDomain (c : Char) : Bool := direction c == .right || direction c == .arabic

/-- A label starts with a letter and ends, but for marks, with a letter of its direction or a digit. Digits of both
kinds do not mix. -/
def keepsDirection (label : List Char) : Bool :=
  match label.map direction with
  | [] => true
  | first :: rest =>
    let ending := (rest.reverse.dropWhile (· == .mark)).head?.getD first
    match first with
    | .left =>
      rest.all (fun d => d != .right && d != .arabic) && (ending == .left || ending == .european)
    | .right =>
      rest.all (· != .left) && (ending == .right || ending == .european || ending == .arabic)
        && !(rest.contains .european && rest.contains .arabic)
    | _ => false

/-! ### Labels -/

/-- The mark of a label in Punycode. -/
def punycodeMark : List Char := "xn--".toList

/-- A label outside ASCII has a thousand characters at most. -/
def isLabel (label : List Char) : Bool :=
  !punycodeMark.isPrefixOf label && !(label.head?.any isMark) && joinersFit [] label
    && (label.all isAscii || label.length ≤ 1000)

/-- Whether a label is the one form that all of its spellings stand for. -/
def isSettled (label : List Char) : Bool :=
  label.all (fun c => mapped? c == some [c]) && normalForm label == label

/-- The label that a part of a domain spells, in plain text or in Punycode of two thousand characters at most. -/
def label? (part : List Char) : Option (List Char) :=
  if punycodeMark.isPrefixOf part then
    let code := part.drop punycodeMark.length
    if 2000 < code.length then none
    else (Punycode.decode? code).filter fun label => isSettled label && isLabel label
  else if isLabel part then some part
  else none

end Keyring.Url
