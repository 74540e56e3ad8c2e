import Keyring.Error

/-! The shapes of addresses. Each chain has a pattern on the text alone: a start, a length and an alphabet.
Checksums are no part of it. -/
namespace Keyring.Address

/-- A letter or digit other than the capitals `I` and `O`. -/
def isSymbol (c : Char) : Bool := c.isAlphanum && c != 'I' && c != 'O'

def isHexDigit (c : Char) : Bool := c.isDigit || ('a' ≤ c && c ≤ 'f') || ('A' ≤ c && c ≤ 'F')

/-- What follows the start of a Bitcoin address: 25 to 39 symbols. -/
def isBitcoinTail (cs : List Char) : Bool := 25 ≤ cs.length && cs.length ≤ 39 && cs.all isSymbol

/-- A Bitcoin address starts with `1`, `3` or `bc1`. -/
def isBitcoin (s : String) : Bool :=
  match s.toList with
  | '1' :: rest | '3' :: rest | 'b' :: 'c' :: '1' :: rest => isBitcoinTail rest
  | _ => false

/-- An account of the Ethereum family is `0x` and 40 hexadecimal digits of either case. -/
def isEvm (s : String) : Bool :=
  match s.toList with
  | '0' :: 'x' :: rest => rest.length == 40 && rest.all isHexDigit
  | _ => false

/-- A TRON address is `T` and 33 symbols. -/
def isTron (s : String) : Bool :=
  match s.toList with
  | 'T' :: rest => rest.length == 33 && rest.all isSymbol
  | _ => false

def isValid : Chain → String → Bool
  | .bitcoin => isBitcoin
  | .tron => isTron
  | .ethereum | .polygon | .binance => isEvm

def validate (chain : Chain) (s : String) : Except Error Unit :=
  if isValid chain s then .ok () else .error .invalidAddress

end Keyring.Address
