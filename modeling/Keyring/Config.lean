import Keyring.Text.Blank
import Keyring.TronGrid
import Keyring.Url

/-! Configuration from named variables. The text of a variable counts without white space at its ends, and a blank
one as unset; a text that makes no sense leaves the default in place. -/
namespace Keyring

inductive LogFormat where
  | json
  | pretty
deriving DecidableEq

namespace LogFormat

def name : LogFormat → String
  | json => "json"
  | pretty => "pretty"

/-- `json` in any case; everything else is `pretty`. -/
def parse (s : String) : LogFormat := if (Text.trim s).toLower == "json" then json else pretty

end LogFormat

structure Config where
  dataPath : String
  tronGrid : TronGrid.Config
  logFormat : LogFormat

namespace Config

/-- The variables that are looked up, in ascending order. -/
def variableNames : List String :=
  ["KMS_DATA_PATH", "LOG_FORMAT", "TRONGRID_API_KEY", "TRONGRID_MAINNET_URL", "TRONGRID_TESTNET_URL",
    "TRONGRID_TIMEOUT_SECS"]

def defaultDataPath : String := "./data/kms.redb"

/-- The text of a variable, unless it is unset or blank. -/
def text? (value : Option String) : Option String := (value.map Text.trim).filter (· != "")

/-- Digits, perhaps behind a plus, of a number that fits in 64 bits. -/
def word? (s : String) : Option Nat :=
  let cs := match s.toList with
    | '+' :: rest => rest
    | cs => cs
  if cs ≠ [] ∧ cs.all Char.isDigit then
    (some (cs.foldl (fun n c => 10 * n + (c.toNat - 48)) 0)).filter (· < 2 ^ 64)
  else none

/-- A timeout of at least a second. -/
def timeout (value : Option String) : Nat :=
  (((text? value).bind word?).filter (0 < ·)).getD TronGrid.defaultTimeoutSeconds

def url (value : Option String) (default : String) : String :=
  ((text? value).filter Url.isWeb).getD default

def ofVariables (lookup : String → Option String) : Config where
  dataPath := (text? (lookup "KMS_DATA_PATH")).getD defaultDataPath
  tronGrid :=
    { mainnetUrl := url (lookup "TRONGRID_MAINNET_URL") TronGrid.defaultMainnetUrl
      testnetUrl := url (lookup "TRONGRID_TESTNET_URL") TronGrid.defaultTestnetUrl
      apiKey := text? (lookup "TRONGRID_API_KEY")
      timeoutSeconds := timeout (lookup "TRONGRID_TIMEOUT_SECS") }
  logFormat := ((text? (lookup "LOG_FORMAT")).map LogFormat.parse).getD .pretty

end Config
end Keyring
