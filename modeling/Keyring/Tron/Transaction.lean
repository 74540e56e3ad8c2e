import Keyring.Json.Fields
import Keyring.Json.Printer
import Keyring.PrivateKey

/-! TRON transactions as a node hands them out, and their signing. A signature is made over the SHA-256 digest of
the bytes that `rawDataHex` spells, and goes to the end of the list of signatures. -/
namespace Keyring.Tron

structure Transaction where
  id : String
  /-- The content as the node explains it, in canonical form. -/
  rawData : Option Json
  rawDataHex : String
  visible : Bool
  signatures : List String
  /-- What the node reports instead of a transaction; empty on success. -/
  error : String

namespace Transaction

def empty : Transaction := ⟨"", none, "", false, [], ""⟩

/-- The bytes that are signed. -/
def raw (tx : Transaction) : Except Error Bytes :=
  match Hex.parse tx.rawDataHex with
  | .ok bs => .ok bs
  | .error fault => .error (.signing (.rawData fault))

def sign (key : PrivateKey) (tx : Transaction) : Except Error Transaction := do
  let raw ← tx.raw
  let sig ← key.sign (sha256 raw)
  return { tx with signatures := tx.signatures ++ [Hex.encode sig.bytes] }

def fieldNames : List String := ["txID", "raw_data", "raw_data_hex", "visible", "signature", "Error"]

/-- A member that is left out when its text is empty. -/
def textMember (name text : String) : List (String × Json) :=
  if text = "" then [] else [(name, .string text)]

def rawDataMember : Option Json → List (String × Json)
  | none => []
  | some v => [("raw_data", v)]

def signatureMember : List String → List (String × Json)
  | [] => []
  | signatures => [("signature", .array (signatures.map Json.string))]

/-- Only `visible` is always written. -/
def toJson (tx : Transaction) : Json :=
  .object (textMember "txID" tx.id ++ rawDataMember tx.rawData ++ textMember "raw_data_hex" tx.rawDataHex
    ++ [("visible", .bool tx.visible)] ++ signatureMember tx.signatures ++ textMember "Error" tx.error)

def toText (tx : Transaction) : String := tx.toJson.compact

/-- Reads a transaction whose content is nested at most `limit` deep. -/
def ofJson? (limit : Nat) (v : Json) : Option Transaction :=
  match Json.slots? fieldNames v with
  | some [id, rawData, rawDataHex, visible, signatures, error] => do
    let id ← id.orElse Json.asString? ""
    let rawData ← rawData.orElse (Json.Slot.nullable (Json.asValue? limit)) none
    let rawDataHex ← rawDataHex.orElse Json.asString? ""
    let visible ← visible.orElse Json.asBool? false
    let signatures ← signatures.orElse Json.asStrings? []
    let error ← error.orElse Json.asString? ""
    some ⟨id, rawData, rawDataHex, visible, signatures, error⟩
  | _ => none

end Transaction
end Keyring.Tron
