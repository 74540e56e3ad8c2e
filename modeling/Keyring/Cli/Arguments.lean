import Keyring.Chain
import Keyring.Uuid

/-! The command line: one command with its arguments, and options before or behind it. Everything after `--` is an
argument, even if it looks like an option. -/
namespace Keyring.Cli

inductive Command where
  | blockchains
  | createWallet (chain : Chain)
  | getWallet (id : Uuid) (trashed : Bool)
  | deleteWallet (id : Uuid)
  | listWallets (trashed : Bool)
deriving DecidableEq

/-- The kinds of command. -/
inductive Verb where
  | blockchains
  | createWallet
  | getWallet
  | deleteWallet
  | listWallets
deriving DecidableEq, Repr

namespace Verb

def all : List Verb := [blockchains, createWallet, getWallet, deleteWallet, listWallets]

def name : Verb → String
  | blockchains => "blockchains"
  | createWallet => "create-wallet"
  | getWallet => "get-wallet"
  | deleteWallet => "delete-wallet"
  | listWallets => "list-wallets"

def ofName? (s : String) : Option Verb := all.find? fun v => v.name == s

/-- Whether deleted wallets can be asked for. -/
def takesTrashed : Verb → Bool
  | getWallet | listWallets => true
  | blockchains | createWallet | deleteWallet => false

end Verb

/-- What an argument of a command says. -/
inductive Argument where
  | chain (chain : Chain)
  | id (id : Uuid)

def Verb.argument? : Verb → String → Option Argument
  | .createWallet, s => (Chain.ofTicker? s).map .chain
  | .getWallet, s | .deleteWallet, s => (Uuid.parse? s).map .id
  | .blockchains, _ | .listWallets, _ => none

def Verb.command? : Verb → Option Argument → (trashed : Bool) → Option Command
  | .blockchains, none, _ => some .blockchains
  | .createWallet, some (.chain c), _ => some (.createWallet c)
  | .getWallet, some (.id id), trashed => some (.getWallet id trashed)
  | .deleteWallet, some (.id id), _ => some (.deleteWallet id)
  | .listWallets, none, trashed => some (.listWallets trashed)
  | _, _, _ => none

/-- A command and the data path that stands with it. -/
structure Invocation where
  dataPath : Option String
  command : Command
deriving DecidableEq

/-- What help is asked for: on everything, on one kind of command, or on the help itself. -/
inductive Topic where
  | everything
  | verb (verb : Verb)
  | help
deriving DecidableEq

/-- What a command line asks for. -/
inductive Demand where
  | help (topic : Topic)
  | run (invocation : Invocation)
deriving DecidableEq

/-- What has been read of a command. -/
structure Progress where
  argument : Option Argument
  trashed : Bool
  dataPath : Option String

def isOption (s : String) : Bool := s.startsWith "-" && s != "-"

/-- Help is asked for in full, or by the first letter of a group of short options. -/
def asksHelp (s : String) : Bool := s == "--help" || s.startsWith "-h"

def pathOption : String := "--data-path"

/-- The path in an option that holds its value behind an equals sign. -/
def attachedPath? (s : String) : Option String :=
  let mark := (pathOption ++ "=").toList
  if mark.isPrefixOf s.toList then some (String.ofList (s.toList.drop mark.length)) else none

/-- A path is not empty and given once. -/
def Progress.setPath? (p : Progress) (path : String) : Option Progress :=
  if path = "" ∨ p.dataPath.isSome then none else some { p with dataPath := some path }

def Progress.setArgument? (verb : Verb) (p : Progress) (s : String) : Option Progress :=
  if p.argument.isSome then none else (verb.argument? s).map fun a => { p with argument := some a }

def Progress.setTrashed? (verb : Verb) (p : Progress) : Option Progress :=
  if verb.takesTrashed ∧ p.trashed = false then some { p with trashed := true } else none

/-- A path given with the command goes before one given in front of it. -/
def finish? (verb : Verb) (outer : Option String) (p : Progress) : Option Demand :=
  (verb.command? p.argument p.trashed).map fun c => .run ⟨p.dataPath.or outer, c⟩

/-- Reads on behind the name of a command. -/
def readCommand (verb : Verb) (outer : Option String) (p : Progress) : List String → Option Demand
  | [] => finish? verb outer p
  | "--" :: rest =>
    match rest.foldlM (Progress.setArgument? verb) p with
    | none => none
    | some p => finish? verb outer p
  | "--with-trashed" :: rest =>
    match p.setTrashed? verb with
    | none => none
    | some p => readCommand verb outer p rest
  | s :: rest =>
    if asksHelp s then some (.help (.verb verb))
    else if s = pathOption then
      match rest with
      | [] => none
      | path :: rest =>
        if isOption path then none
        else
          match p.setPath? path with
          | none => none
          | some p => readCommand verb outer p rest
    else
      match attachedPath? s with
      | some path =>
        match p.setPath? path with
        | none => none
        | some p => readCommand verb outer p rest
      | none =>
        if isOption s then none
        else
          match p.setArgument? verb s with
          | none => none
          | some p => readCommand verb outer p rest

def readHelp : List String → Option Demand
  | [] => some (.help .everything)
  | [name] => if name = "help" then some (.help .help) else (Verb.ofName? name).map fun v => .help (.verb v)
  | _ => none

/-- Reads the options in front of the name of a command; none for a faulty command line. -/
def read (path : Option String) : List String → Option Demand
  | [] => none
  | "help" :: rest => readHelp rest
  | s :: rest =>
    if asksHelp s then some (.help .everything)
    else if s = pathOption then
      match rest with
      | [] => none
      | value :: rest => if isOption value ∨ value = "" ∨ path.isSome then none else read (some value) rest
    else
      match attachedPath? s with
      | some value => if value = "" ∨ path.isSome then none else read (some value) rest
      | none =>
        match Verb.ofName? s with
        | some verb => readCommand verb path ⟨none, false, none⟩ rest
        | none => none

def parse (args : List String) : Option Demand := read none args

end Keyring.Cli
