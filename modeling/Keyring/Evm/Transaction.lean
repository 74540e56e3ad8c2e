import Keyring.Evm.Order
import Keyring.Evm.Rlp
import Keyring.PrivateKey
import Keyring.Token
import Keyring.Wallet

/-! Transactions of the Ethereum family with a fee market: a type byte 2 and one list of fields. The digest of the
list without its last three fields is signed, and these three hold the signature. -/
namespace Keyring.Evm

open Secp256k1

structure Transaction where
  chainId : Nat
  nonce : Nat
  maxPriorityFee : Nat
  maxFee : Nat
  gas : Nat
  recipient : Account
  value : Nat
  data : Bytes
deriving DecidableEq

/-- Coins go to the recipient with an empty call; tokens are moved by a call to their contract, without value. -/
def Transfer.transaction (t : Transfer) : Transaction :=
  match t.contract with
  | none => ⟨t.chainId, t.nonce, t.maxPriorityFee, t.maxFee, t.gas, t.recipient, t.amount, []⟩
  | some contract =>
    ⟨t.chainId, t.nonce, t.maxPriorityFee, t.maxFee, t.gas, contract, 0, Token.transferData t.recipient t.amount⟩

namespace Transaction

/-- The fields that are signed; the last of them is the access list, which stays empty. -/
def fields (tx : Transaction) : List Rlp :=
  [.nat tx.chainId, .nat tx.nonce, .nat tx.maxPriorityFee, .nat tx.maxFee, .nat tx.gas,
    .string tx.recipient.bytes, .nat tx.value, .string tx.data, .list []]

/-- The type byte and a list. -/
def envelope (items : List Rlp) : Bytes := 2 :: (Rlp.list items).encode

/-- What the signed digest is taken of. -/
def preimage (tx : Transaction) : Bytes := envelope tx.fields

def parity (sig : Signature) : Nat := if sig.odd then 1 else 0

def signed (tx : Transaction) (sig : Signature) : Bytes :=
  envelope (tx.fields ++ [.nat (parity sig), .nat sig.r, .nat sig.s])

def sign (tx : Transaction) (key : PrivateKey) : Except Error Bytes :=
  (key.sign (keccak256 tx.preimage)).map tx.signed

/-! ### Reading -/

/-- A signed transaction as its bytes tell it. -/
structure Signed where
  transaction : Transaction
  parity : Nat
  r : Nat
  s : Nat
deriving DecidableEq

def ofFields? : List Rlp → Option Signed
  | [chainId, nonce, maxPriorityFee, maxFee, gas, .string recipient, value, .string data, .list [],
      parity, r, s] => do
    let chainId ← chainId.toNat?
    let nonce ← nonce.toNat?
    let maxPriorityFee ← maxPriorityFee.toNat?
    let maxFee ← maxFee.toNat?
    let gas ← gas.toNat?
    let value ← value.toNat?
    let parity ← parity.toNat?
    let r ← r.toNat?
    let s ← s.toNat?
    if h : recipient.length = 20 then
      some ⟨⟨chainId, nonce, maxPriorityFee, maxFee, gas, ⟨recipient, h⟩, value, data⟩, parity, r, s⟩
    else none
  | _ => none

def ofSigned? : Bytes → Option Signed
  | 2 :: bs =>
    match Rlp.decode? bs with
    | some (.list items) => ofFields? items
    | _ => none
  | _ => none

end Transaction

/-- The signed transaction that an order of the wallet's chain asks for, as text. The wallet must be of that chain,
then the order must be without fault, then the wallet's key must be one. -/
def transact (chain : Chain) (wallet : Wallet) (order : Order) : Except Error String := do
  if wallet.chain ≠ chain then throw (.unknownChain (.foreignWallet wallet.id wallet.chain chain))
  let transfer ← order.check
  let key ← PrivateKey.parse wallet.privateKey
  let bytes ← transfer.transaction.sign key
  return "0x" ++ Hex.encode bytes

end Keyring.Evm
