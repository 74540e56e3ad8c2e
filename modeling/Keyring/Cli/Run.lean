import Keyring.Cli.Help
import Keyring.Config
import Keyring.Service
import Keyring.Store.Disk

/-! One run of the command line: the store is opened, the command carried out, and its answer written as JSON. -/
namespace Keyring.Cli

/-- How a run ends. The exit code is 0 on success, 1 after an error and 2 for a faulty command line. -/
structure Outcome where
  exitCode : Nat
  output : String
  error : Option Error

def Outcome.done (output : String) : Outcome := ⟨0, output, none⟩

def Outcome.misuse : Outcome := ⟨2, "", none⟩

def Outcome.ofAnswer : Except Error Json → Outcome
  | .ok v => .done (v.pretty ++ "\n")
  | .error e => ⟨1, "", some e⟩

namespace Command

variable {σ : Type}

def showWallet (w : Wallet) : Json := w.view.toJson

/-- The answer to a command. A wallet is shown without its private key. -/
def run (v : Service σ) (stamp : Stamp) (s : σ) : Command → Except Error Json × Service σ × σ
  | blockchains => (.ok (.array (v.supported.map Json.ofChain)), v, s)
  | createWallet chain =>
    let (answer, v, s) := v.create chain stamp s
    (answer.map showWallet, v, s)
  | getWallet id trashed => ((v.get id trashed).map showWallet, v, s)
  | deleteWallet id =>
    let (answer, v) := v.delete id stamp.time
    (answer.map fun _ => .object [("deleted", .bool true), ("id", .ofUuid id)], v, s)
  | listWallets trashed => ((v.list trashed).map fun ws => .array (ws.map showWallet), v, s)

end Command

/-- The path of the store: the one on the command line goes before the configured one. -/
def Invocation.path (i : Invocation) (config : Config) : String := i.dataPath.getD config.dataPath

variable {σ : Type}

/-- Carries a command out on a store, with a provider for every chain. -/
def execute (source : Source σ) (i : Invocation) (stamp : Stamp) (store : Store) (s : σ) : Outcome × Store × σ :=
  let (answer, v, s) := i.command.run ⟨store, .full source⟩ stamp s
  (.ofAnswer answer, v.store, s)

/-- One run against files. -/
def run (source : Source σ) (lookup : String → Option String) (args : List String) (stamp : Stamp) (d : Disk)
    (s : σ) : Outcome × Disk × σ :=
  match parse args with
  | none => (.misuse, d, s)
  | some (.help topic) => (.done topic.text, d, s)
  | some (.run i) =>
    match d.openStore (i.path (.ofVariables lookup)) with
    | (.error e, d) => (⟨1, "", some (.ofStore e)⟩, d, s)
    | (.ok (p, store), d) =>
      let (outcome, store, s) := execute source i stamp store s
      (outcome, d.close p store, s)

end Keyring.Cli
