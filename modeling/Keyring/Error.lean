import Keyring.Chain
import Keyring.Hex
import Keyring.Uuid

/-! What can go wrong, as causes. The wording of each cause is given by `message`, and `isValidation` tells
the faults of a caller's input from those of the system. -/
namespace Keyring

/-- Why a chain cannot be used: its ticker is unknown, nothing serves it, or the wallet is of another one. -/
inductive ChainFault where
  | ticker (text : String)
  | unserved (chain : Chain)
  | foreignWallet (id : Uuid) (chain wanted : Chain)
deriving DecidableEq

/-- Why no key was generated. -/
inductive GenerationFault where
  | source (reason : String)
  | noScalar
  | masterKey
deriving DecidableEq

/-- Why a text is no private key: it is no hexadecimal text, or no scalar. -/
inductive KeyFault where
  | digits (fault : Hex.Fault)
  | scalar
deriving DecidableEq

inductive SigningFault where
  | rawData (fault : Hex.Fault)
  | nonce
deriving DecidableEq

/-- Why a registered provider cannot be used. -/
inductive ProviderFault where
  | missing (chain : Chain)
  | wrongKind (chain : Chain)
  | notEvm (chain : Chain)
deriving DecidableEq

/-- Why an answer of the node is not signed. -/
inductive ReplyFault where
  | rejected (code message : String)
  | reported (text : String)
  | noRawData
deriving DecidableEq

/-- A failed exchange with the node. -/
inductive NodeError where
  | request (reason : String)
  | status (code : Nat) (body : String)
  | rejected (code message : String)
  | malformed (reason : String)
deriving DecidableEq

inductive StoreError where
  | notFound (id : Uuid)
  | unreadable
  | io
  | database
deriving DecidableEq

inductive Error where
  | notFound
  | unknownChain (fault : ChainFault)
  | invalidAddress
  | invalidContractAddress
  | invalidAmount
  | invalidNetwork
  | invalidGasSettings
  | invalidNonce
  | invalidAssetKind (text : String)
  | nodeReply (fault : ReplyFault)
  | insufficientBalance
  | keyGeneration (fault : GenerationFault)
  | invalidPrivateKey (fault : KeyFault)
  | signing (fault : SigningFault)
  | cancelled
  | provider (fault : ProviderFault)
  | store (error : StoreError)
  | node (error : NodeError)
deriving DecidableEq

/-! ### Wording -/

def ChainFault.message : ChainFault → String
  | ticker text => text
  | unserved chain => "no provider registered for " ++ chain.ticker
  | foreignWallet id chain wanted =>
    "wallet " ++ id.toString ++ " is a " ++ chain.ticker ++ " wallet and cannot sign " ++ wanted.ticker
      ++ " transactions"

def GenerationFault.message : GenerationFault → String
  | source reason => "randomness source failed: " ++ reason
  | noScalar => "randomness source never produced a valid secp256k1 scalar"
  | masterKey => "the seed gives no valid master key"

def KeyFault.message : KeyFault → String
  | digits fault => fault.message
  | scalar => "signature error"

def SigningFault.message : SigningFault → String
  | rawData fault => "invalid raw_data_hex: " ++ fault.message
  | nonce => "signature error"

def ProviderFault.message : ProviderFault → String
  | missing chain => chain.ticker ++ " provider not found"
  | wrongKind chain => chain.ticker ++ " provider is invalid"
  | notEvm chain => chain.ticker ++ " is not an EVM chain"

def ReplyFault.message : ReplyFault → String
  | rejected code message => code ++ ": " ++ message
  | reported text => text
  | noRawData => "transaction has no raw_data_hex"

def NodeError.message : NodeError → String
  | request reason => "TRON node request failed: " ++ reason
  | status code body => "TRON node returned HTTP " ++ toString code ++ ": " ++ body
  | rejected code message => "TRON node rejected the call: " ++ code ++ ": " ++ message
  | malformed reason => "TRON node response was invalid: " ++ reason

def StoreError.message : StoreError → String
  | notFound id => "wallet not found: " ++ id.toString
  | unreadable => "serialization error"
  | io => "failed to create data directory"
  | database => "database error"

namespace Error

def message : Error → String
  | notFound => "wallet not found"
  | unknownChain fault => "unknown blockchain: " ++ fault.message
  | invalidAddress => "invalid address"
  | invalidContractAddress => "invalid contract address"
  | invalidAmount => "invalid amount"
  | invalidNetwork => "invalid network"
  | invalidGasSettings => "invalid network gas settings"
  | invalidNonce => "invalid nonce"
  | invalidAssetKind text => "invalid asset type: " ++ text
  | nodeReply fault => "invalid response from TRON node: " ++ fault.message
  | insufficientBalance => "sender balance is insufficient"
  | keyGeneration fault => "key generation failed: " ++ fault.message
  | invalidPrivateKey fault => "invalid private key: " ++ fault.message
  | signing fault => "signing failed: " ++ fault.message
  | cancelled => "operation cancelled"
  | provider fault => "provider misconfigured: " ++ fault.message
  | store error => "storage error: " ++ error.message
  | node error => "TRON node error: " ++ error.message

/-- Whether the error comes from a caller's input. -/
def isValidation : Error → Bool
  | invalidAddress | invalidContractAddress | invalidAmount | invalidNetwork | invalidGasSettings
  | invalidNonce | invalidAssetKind _ => true
  | _ => false

/-- A value, or the error that there is none. -/
def ifNone {α : Type} (e : Error) : Option α → Except Error α
  | some a => .ok a
  | none => .error e

theorem ifNone_eq_ok_iff {α : Type} {e : Error} {o : Option α} {a : α} : e.ifNone o = .ok a ↔ o = some a := by
  cases o <;> simp [ifNone]

theorem ifNone_eq_error_iff {α : Type} {e e' : Error} {o : Option α} : e.ifNone o = .error e' ↔ o = none ∧ e' = e := by
  cases o <;> simp [ifNone, eq_comm]

/-- A wallet that is not stored is not found; every other fault is one of storage. -/
def ofStore : StoreError → Error
  | .notFound _ => notFound
  | e => store e

end Error

namespace Chain

def parse (s : String) : Except Error Chain :=
  match ofTicker? s with
  | some c => .ok c
  | none => .error (.unknownChain (.ticker s))

end Chain

namespace AssetKind

def parse (s : String) : Except Error AssetKind :=
  match ofName? s with
  | some k => .ok k
  | none => .error (.invalidAssetKind s)

end AssetKind
end Keyring
