import Keyring.Tron.Message
import Keyring.Tron.Order
import Keyring.Wallet

/-! The exchange with a node. An order becomes one question to a node, which builds the transaction; the answer is
awaited poll by poll until it is there or the caller cancels, and what a node built without complaint is signed. -/
namespace Keyring.Tron

inductive Request where
  | transfer (request : TransferRequest)
  | contractCall (request : ContractCallRequest)
deriving DecidableEq

/-- A request, and whether it is for the test network. -/
structure Query where
  request : Request
  isTest : Bool
deriving DecidableEq

abbrev Reply := Except NodeError Transaction

/-- A node by what it answers. -/
abbrev Node := Query → Reply

/-- One look at a pending exchange: whether the caller has cancelled by then, and whether the answer is there. -/
structure Poll where
  cancelled : Bool
  ready : Bool
deriving DecidableEq, Repr

inductive Wait where
  | pending
  | cancelled
  | answered
deriving DecidableEq, Repr

/-- At each poll a cancellation is seen before an answer. -/
def settle : List Poll → Wait
  | [] => .pending
  | p :: rest => if p.cancelled then .cancelled else if p.ready then .answered else settle rest

/-- The node is asked at the first poll, unless the caller has cancelled by then. -/
def asks : List Poll → Bool
  | [] => false
  | p :: _ => !p.cancelled

def transferSelector : String := "transfer(address,uint256)"

def request (wallet : Wallet) (order : Order) : Transfer → Request
  | .coin amount => .transfer ⟨wallet.address, order.recipient, amount, true⟩
  | .token contract parameter feeLimit =>
    .contractCall ⟨wallet.address, contract, transferSelector, parameter, feeLimit, 0, true⟩

/-- What a node says when the sender cannot pay. -/
def shortageMarker : List Char := "balance is not sufficient".toList

/-- Whether a text occurs anywhere in another. -/
def occursIn (part : List Char) : List Char → Bool
  | [] => part.isEmpty
  | c :: cs => part.isPrefixOf (c :: cs) || occursIn part cs

def mentionsShortage (s : String) : Bool := occursIn shortageMarker s.toList

/-- The transaction of an answer, if it can be signed. -/
def accept : Reply → Except Error Transaction
  | .error (.rejected code message) =>
    if mentionsShortage message then .error .insufficientBalance
    else .error (.nodeReply (.rejected code message))
  | .error e => .error (.node e)
  | .ok tx =>
    if mentionsShortage tx.error then .error .insufficientBalance
    else if tx.error ≠ "" then .error (.nodeReply (.reported tx.error))
    else if tx.rawDataHex = "" then .error (.nodeReply .noRawData)
    else .ok tx

/-- What an order comes to: the questions that reach the node, and the result, if there is one yet. -/
structure Exchange where
  queries : List Query
  result : Option (Except Error Transaction)

/-- Everything that is settled before a node is asked: the wallet's chain, the order and the wallet's key. -/
def prepare (wallet : Wallet) (order : Order) : Except Error (Query × PrivateKey) := do
  if wallet.chain ≠ .tron then throw (.unknownChain (.foreignWallet wallet.id wallet.chain .tron))
  let transfer ← order.check
  let key ← PrivateKey.parse wallet.privateKey
  return (⟨request wallet order transfer, order.isTest⟩, key)

/-- The signed transaction that an order asks for, built by a node and awaited at the polls of a schedule. -/
def transact (node : Node) (schedule : List Poll) (wallet : Wallet) (order : Order) : Exchange :=
  match prepare wallet order with
  | .error e => ⟨[], some (.error e)⟩
  | .ok (query, key) =>
    ⟨if asks schedule then [query] else [],
      match settle schedule with
      | .pending => none
      | .cancelled => some (.error .cancelled)
      | .answered => some (accept (node query) >>= Transaction.sign key)⟩

end Keyring.Tron
