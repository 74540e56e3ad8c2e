import Keyring.Bytes

/-! Base-58 text: the digits of the number that the bytes spell, with one `1` in front for each leading
zero byte. -/
namespace Keyring.Base58

def alphabet : List Char := "123456789ABCDEFGHJKLMNPQRSTUVWXYZabcdefghijkmnopqrstuvwxyz".toList

def digit (n : Nat) : Char := alphabet.getD n '1'

def value? (c : Char) : Option Nat := alphabet.findIdx? (· == c)

/-- The last `k` base-58 digits of `n` without leading zeros. -/
def numeralUpTo : (k n : Nat) → List Char
  | 0, _ => []
  | k + 1, n => if n = 0 then [] else numeralUpTo k (n / 58) ++ [digit (n % 58)]

/-- The base-58 digits of `n`; zero has none. A number has no more of them than it has bits. -/
def numeral (n : Nat) : List Char := numeralUpTo (n.log2 + 1) n

def ofDigits (ds : List Nat) : Nat := ds.foldl (fun n d => 58 * n + d) 0

def encode (bs : Bytes) : String :=
  String.ofList ((bs.takeWhile (· == 0)).map (fun _ => '1') ++ numeral (Bytes.toNat bs))

def decode? (s : String) : Option Bytes :=
  match s.toList.mapM value? with
  | none => none
  | some ds => some ((ds.takeWhile (· == 0)).map (fun _ => 0) ++ Bytes.minimal (ofDigits ds))

end Keyring.Base58
