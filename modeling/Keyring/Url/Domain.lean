import Keyring.Url.Domain.Label
import Keyring.Url.Numeric

/-! Domains in the host of a URL: labels between dots, in normal form. A domain can be spelt in many ways, and all
spellings of one domain are read as the same text. -/
namespace Keyring.Url

/-- Control characters, blanks and delimiters have no place in a domain. -/
def isForbidden (c : Char) : Bool := c.toNat ≤ 0x20 || c.toNat == 0x7f || "%#/:<>?@[\\]^|".toList.contains c

/-- Whether labels can stand in one domain: each keeps its direction as soon as one has a character that turns it. -/
def agree (labels : List (List Char)) : Bool :=
  !(labels.any fun l => l.any turnsDomain) || labels.all keepsDirection

/-- The domain that a text spells, with labels in Punycode left as they are. -/
def domain? (text : List Char) : Option (List Char) :=
  match text.mapM mapped? with
  | none => none
  | some images =>
    let cs := Unicode.normalForm images.flatten
    if cs = [] ∨ cs.any isForbidden then none
    else
      match (parts cs).mapM label? with
      | none => none
      | some labels => if agree labels then some cs else none

end Keyring.Url
