import Keyring.Url.Host

/-! Which texts are URLs of a web service: an absolute URL with scheme `http` or `https`, and a host and number that can
be. The rest of a URL, its path, query and fragment, may be anything. -/
namespace Keyring.Url

open Text (numeral?)

/-- Text without controls and blanks at its ends, and without tabs and line ends anywhere. -/
def clean (s : String) : List Char :=
  let isEdge := fun c : Char => c.toNat ≤ 0x20
  let cs := ((s.toList.dropWhile isEdge).reverse.dropWhile isEdge).reverse
  cs.filter fun c => c != '\t' && c != '\n' && c != '\r'

/-- The scheme in small letters, and what follows its colon. -/
def scheme? (cs : List Char) : Option (String × List Char) :=
  let name := cs.takeWhile fun c => c.isAlphanum || c == '+' || c == '-' || c == '.'
  match name, cs.drop name.length with
  | c :: _, ':' :: rest => if c.isAlpha then some (String.ofList (name.map Char.toLower), rest) else none
  | _, _ => none

def isSlash (c : Char) : Bool := c == '/' || c == '\\'

/-- Whether the part of a URL that names a server ends here. -/
def endsAuthority (c : Char) : Bool := isSlash c || c == '?' || c == '#'

/-- The text behind the last `@`, which ends a user name and a password. -/
def dropUser (authority : List Char) : List Char :=
  (authority.reverse.takeWhile (· != '@')).reverse

/-- Splits off the number of a server at the first colon outside brackets. -/
def splitNumber (inside : Bool) : List Char → List Char × Option (List Char)
  | [] => ([], none)
  | c :: rest =>
    if c == ':' && !inside then ([], some rest)
    else
      let (host, number) := splitNumber (if c == '[' then true else if c == ']' then false else inside) rest
      (c :: host, number)

/-- The number of a server is empty or a decimal of 16 bits. -/
def isServerNumber : Option (List Char) → Bool
  | none => true
  | some cs =>
    match numeral? 10 cs with
    | none => false
    | some n => n < 65536

/-- Any number of slashes stands between scheme and host. -/
def isWeb (s : String) : Bool :=
  match scheme? (clean s) with
  | none => false
  | some (scheme, rest) =>
    let authority := (rest.dropWhile isSlash).takeWhile fun c => !endsAuthority c
    let (host, number) := splitNumber false (dropUser authority)
    (scheme == "http" || scheme == "https") && isHost host && isServerNumber number

end Keyring.Url
