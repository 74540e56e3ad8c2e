import Keyring.Chain
import Keyring.Json.Record
import Keyring.Time.Rfc3339
import Keyring.Uuid

/-! Fields of the domain in JSON: chains and kinds of asset by name, identifiers and instants as text. -/
namespace Keyring.Json

def asChain? (v : Json) : Option Chain := (asName? v).bind Chain.ofTicker?

def asKind? (v : Json) : Option AssetKind := (asName? v).bind AssetKind.ofName?

def asUuid? (v : Json) : Option Uuid := (asString? v).bind Uuid.parse?

def asTimestamp? (v : Json) : Option Timestamp := (asString? v).bind Timestamp.parse?

def ofChain (c : Chain) : Json := string c.ticker

def ofKind (k : AssetKind) : Json := string k.name

def ofUuid (id : Uuid) : Json := string id.toString

def ofTimestamp (t : Timestamp) : Json := string t.toString

def ofUInt64 (n : UInt64) : Json := int n.toNat

def ofInt64 (n : Int64) : Json := int n.toInt

/-- An optional field that is null when there is nothing. -/
def ofOption {α : Type} (write : α → Json) : Option α → Json
  | none => null
  | some a => write a

end Keyring.Json
