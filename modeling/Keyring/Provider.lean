import Keyring.Bitcoin.MasterKey
import Keyring.Tron.Address
import Keyring.Wallet

/-! Providers: what makes wallets for a chain and knows its addresses. A provider draws its keys from a source of
random bytes. -/
namespace Keyring

inductive Provider (σ : Type) where
  | bitcoin (source : Source σ)
  | evm (chain : Chain) (isEvm : chain.isEvm = true) (source : Source σ)
  | tron (source : Source σ)

namespace Provider

variable {σ : Type}

/-- A provider for a chain of the Ethereum family. -/
def forEvm (chain : Chain) (source : Source σ) : Except Error (Provider σ) :=
  if h : chain.isEvm = true then .ok (.evm chain h source) else .error (.provider (.notEvm chain))

/-- The provider for a chain. -/
def forChain (chain : Chain) (source : Source σ) : Provider σ :=
  match chain with
  | .bitcoin => .bitcoin source
  | .tron => .tron source
  | .ethereum => .evm .ethereum rfl source
  | .polygon => .evm .polygon rfl source
  | .binance => .evm .binance rfl source

def chain : Provider σ → Chain
  | bitcoin _ => .bitcoin
  | evm chain _ _ => chain
  | tron _ => .tron

theorem chain_forChain (c : Chain) (source : Source σ) : (forChain c source).chain = c := by cases c <;> rfl

/-- Whether a text is an address of the provider's chain. -/
def accepts : Provider σ → String → Bool
  | bitcoin _ => Address.isBitcoin
  | evm _ _ _ => Address.isEvm
  | tron _ => Address.isTron

/-- A new wallet that holds a key and its public key as text. -/
def wallet (stamp : Stamp) (chain : Chain) (address publicKey privateKey : String) : Wallet :=
  ⟨stamp.id, address, publicKey, privateKey, stamp.time, none, chain⟩

def keyWallet (stamp : Stamp) (chain : Chain) (address : Evm.Account → String) (key : PrivateKey) : Wallet :=
  wallet stamp chain (address (Evm.Account.ofPoint key.point)) (PrivateKey.encodePublic key.point) key.encode

def masterWallet (stamp : Stamp) (m : Bitcoin.MasterKey) : Wallet :=
  wallet stamp .bitcoin m.address m.publicText m.privateText

/-- A master key is made from a seed of 256 bytes, whatever the seed is. -/
def drawMaster (source : Source σ) (s : σ) : Except Error Bitcoin.MasterKey × σ :=
  match source.fill 256 s with
  | (.error reason, s) => (.error (.keyGeneration (.source reason)), s)
  | (.ok seed, s) =>
    match Bitcoin.MasterKey.ofSeed? seed.val with
    | some m => (.ok m, s)
    | none => (.error (.keyGeneration .masterKey), s)

/-- A new wallet under a stamp, and what is left of the source. -/
def generate (stamp : Stamp) (s : σ) : Provider σ → Except Error Wallet × σ
  | bitcoin source =>
    let (answer, s) := drawMaster source s
    (answer.map (masterWallet stamp), s)
  | evm chain _ source =>
    let (answer, s) := PrivateKey.draw source s
    (answer.map (keyWallet stamp chain Evm.Account.toText), s)
  | tron source =>
    let (answer, s) := PrivateKey.draw source s
    (answer.map (keyWallet stamp .tron Tron.Address.ofAccount), s)

end Provider
end Keyring
