import Keyring.Main
import Keyring.Cli.Run
import Keyring.Proofs.Evm.Rlp
import Keyring.Proofs.Amount
import Keyring.Proofs.Evm.Account
import Keyring.Proofs.Evm.Order
import Keyring.Proofs.Evm.Envelope
import Keyring.Proofs.Evm.SignedTransfer
import Keyring.Proofs.Condition
import Keyring.Proofs.Tron.Order
import Keyring.Proofs.Tron.Inquiry
import Keyring.Proofs.Tron.Verdict
import Keyring.Proofs.TronGrid
import Keyring.Proofs.Text.Digits
import Keyring.Proofs.Time.Calendar
import Keyring.Proofs.Time.Rfc3339
import Keyring.Proofs.Json.Literal
import Keyring.Proofs.Uuid
import Keyring.Proofs.Json.Text
import Keyring.Proofs.Wallet.Record
import Keyring.Proofs.Store.Disk
import Keyring.Proofs.Store.Records
import Keyring.Proofs.Store.Session
import Keyring.Proofs.Base58
import Keyring.Proofs.Address
import Keyring.Proofs.Bitcoin.MasterKey
import Keyring.Proofs.Provider
import Keyring.Proofs.Service.Interleaving
import Keyring.Proofs.Signing
import Keyring.Proofs.Evm.Verdict
import Keyring.Proofs.Evm.Preimage
import Keyring.Proofs.Tron.Recipient
import Keyring.Proofs.Tron.Cancellation
import Keyring.Proofs.Store.Transaction
import Keyring.Proofs.Service.Frame
import Keyring.Proofs.Service.Race
import Keyring.Proofs.Store.Alike
import Keyring.Proofs.Service.Secrecy
import Keyring.Proofs.PrivateKey.Text
import Keyring.Proofs.Tron.Emptiness
import Keyring.Proofs.Provider.Barren
import Keyring.Proofs.Store.Table
import Keyring.Proofs.Service.Absence
import Keyring.Proofs.Service.Creation
import Keyring.Proofs.Text.Utf8
import Keyring.Proofs.Time.Instant
import Keyring.Proofs.Store.Listing
import Keyring.Proofs.Entropy
import Keyring.Proofs.Provider.Stretch
import Keyring.Proofs.Registry
import Keyring.Proofs.Service.Dispatch
import Keyring.Proofs.Tron.Parameter
import Keyring.Proofs.Tron.Signing
import Keyring.Proofs.Config
import Keyring.Proofs.TronGrid.Request
import Keyring.Proofs.Wallet.NormalForm
import Keyring.Proofs.Tron.Transaction
