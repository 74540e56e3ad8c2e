import Keyring.Tron.Node

/-! TronGrid: a TRON node behind a web service. A query becomes the post of a JSON text to one of two networks, and
the status and body that come back become the node's answer. The key of the service goes to the main network only. -/
namespace Keyring.TronGrid

structure Config where
  mainnetUrl : String
  testnetUrl : String
  apiKey : Option String
  timeoutSeconds : Nat
deriving DecidableEq

def defaultMainnetUrl : String := "https://api.trongrid.io"

def defaultTestnetUrl : String := "https://api.shasta.trongrid.io"

def defaultTimeoutSeconds : Nat := 5

structure HttpRequest where
  url : String
  apiKey : Option String
  body : String
deriving DecidableEq

/-- How an exchange over the web ends. -/
inductive HttpOutcome where
  | failed (reason : String)
  | answered (status : Nat) (body : String)
deriving DecidableEq

/-- A base URL without slashes at its end. -/
def trimSlashes (url : String) : String :=
  String.ofList (url.toList.reverse.dropWhile (· == '/')).reverse

def path : Tron.Request → String
  | .transfer _ => "/wallet/createtransaction"
  | .contractCall _ => "/wallet/triggersmartcontract"

def body : Tron.Request → Json
  | .transfer r => r.toJson
  | .contractCall r => r.toJson

def request (config : Config) (query : Tron.Query) : HttpRequest where
  url := trimSlashes (if query.isTest then config.testnetUrl else config.mainnetUrl) ++ path query.request
  apiKey := if query.isTest then none else config.apiKey
  body := (body query.request).compact

/-- The answer that a body holds. A call to a contract must have been accepted. -/
def readBody (request : Tron.Request) (body : String) : Tron.Reply :=
  match request with
  | .transfer _ =>
    match Tron.Transaction.ofText? body with
    | some tx => .ok tx
    | none => .error (.malformed "the body is no transaction")
  | .contractCall _ =>
    match Tron.ContractCallResponse.ofText? body with
    | some r => if r.accepted then .ok r.transaction else .error (.rejected r.code r.message)
    | none => .error (.malformed "the body is no answer to a call")

/-- Only a body with status 200 is looked at. -/
def reply (request : Tron.Request) : HttpOutcome → Tron.Reply
  | .failed reason => .error (.request reason)
  | .answered status body => if status = 200 then readBody request body else .error (.status status body)

/-- The node that is asked by sending its requests over the web. -/
def node (config : Config) (send : HttpRequest → HttpOutcome) : Tron.Node := fun query =>
  reply query.request (send (request config query))

end Keyring.TronGrid
