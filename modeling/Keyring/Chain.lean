/-! The supported blockchains, in their fixed order, and the two kinds of asset that move on them. Both are
named by exact texts: a ticker in capitals, `coin` or `token` in small letters. -/
namespace Keyring

inductive Chain where
  | bitcoin
  | ethereum
  | tron
  | polygon
  | binance
deriving DecidableEq, Repr

namespace Chain

def all : List Chain := [bitcoin, ethereum, tron, polygon, binance]

theorem mem_all (c : Chain) : c ∈ all := by cases c <;> simp [all]

def ticker : Chain → String
  | bitcoin => "BTC"
  | ethereum => "ETH"
  | tron => "TRON"
  | polygon => "MATIC"
  | binance => "BSC"

def ofTicker? (s : String) : Option Chain := all.find? fun c => c.ticker == s

/-- Whether the chain runs the Ethereum virtual machine. -/
def isEvm : Chain → Bool
  | ethereum | polygon | binance => true
  | bitcoin | tron => false

theorem ofTicker?_ticker (c : Chain) : ofTicker? c.ticker = some c := by cases c <;> decide

end Chain

inductive AssetKind where
  | coin
  | token
deriving DecidableEq, Repr

namespace AssetKind

def name : AssetKind → String
  | coin => "coin"
  | token => "token"

def ofName? (s : String) : Option AssetKind := [coin, token].find? fun k => k.name == s

theorem ofName?_name (k : AssetKind) : ofName? k.name = some k := by cases k <;> decide

end AssetKind
end Keyring
