import Keyring.Json.Printer
import Keyring.Json.Reader
import Keyring.Store.Table

/-! The file form of a table: one JSON object, under `wallets`, that has the text of each entry. An empty file is an
empty table. -/
namespace Keyring.Table

def ofEntries (es : List (String × ByteArray)) : Table := es.foldl (fun t e => t.insert e.1 e.2) empty

/-- The file form, if every entry is text. -/
def image? (t : Table) : Option String :=
  match t.entries.mapM (fun e => (String.fromUTF8? e.2).map fun s => (e.1, Json.string s)) with
  | none => none
  | some ms => some (Json.object [("wallets", .object ms)]).compact

def ofMembers? (ms : List (String × Json)) : Option Table :=
  match ms.mapM (fun m => match m.2 with
      | .string s => some (m.1, s.toUTF8)
      | _ => none) with
  | none => none
  | some es => some (ofEntries es)

def ofImage? (s : String) : Option Table :=
  if s = "" then some empty
  else
    match Json.parse? s with
    | some (.object [("wallets", .object ms)]) => ofMembers? ms
    | _ => none

end Keyring.Table
