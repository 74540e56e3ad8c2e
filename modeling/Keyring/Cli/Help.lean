import Keyring.Cli.Arguments

/-! The help texts of the command line. -/
namespace Keyring.Cli

def Verb.summary : Verb → String
  | .blockchains => "List blockchains with a registered provider"
  | .createWallet => "Generate and store a new wallet"
  | .getWallet => "Show one wallet"
  | .deleteWallet => "Soft-delete a wallet"
  | .listWallets => "List stored wallets"

/-- The name of a command's argument and what is said of it. -/
def Verb.operand : Verb → Option (String × String)
  | .createWallet => some ("<BLOCKCHAIN>", "BTC, ETH, TRON, MATIC or BSC")
  | .getWallet | .deleteWallet => some ("<ID>", "")
  | .blockchains | .listWallets => none

/-- Two columns, the second of which starts two blanks behind the longest entry of the first. -/
def columns (rows : List (String × String)) : List String :=
  let width := rows.foldl (fun n r => max n r.1.length) 0
  rows.map fun r => "  " ++ r.1 ++ String.ofList (List.replicate (width + 2 - r.1.length) ' ') ++ r.2

def pathRow : String × String := ("    --data-path <DATA_PATH>", "Wallet database (overrides KMS_DATA_PATH)")

def trashedRow : String × String := ("    --with-trashed", "Include soft-deleted wallets")

def helpRow : String × String := ("-h, --help", "Print help")

def lines (ls : List String) : String := String.join (ls.map (· ++ "\n"))

def helpSummary : String := "Print this message or the help of the given subcommand(s)"

def overviewText : String :=
  lines (["Multi-chain key management: create, inspect and delete wallets", "",
    "Usage: kms [OPTIONS] <COMMAND>", "", "Commands:"]
    ++ columns (Verb.all.map (fun v => (v.name, v.summary))
      ++ [("help", helpSummary)])
    ++ ["", "Options:"] ++ columns [pathRow, helpRow])

def helpText : String :=
  lines ([helpSummary, "", "Usage: kms help [COMMAND]...", "", "Arguments:"]
    ++ columns [("[COMMAND]...", "Print help for the subcommand(s)")])

def Verb.helpText (v : Verb) : String :=
  let usage := "Usage: kms " ++ v.name ++ " [OPTIONS]"
  let operand := match v.operand with
    | none => []
    | some row => "" :: "Arguments:" :: columns [row]
  lines ([v.summary, "", match v.operand with
      | none => usage
      | some row => usage ++ " " ++ row.1]
    ++ operand ++ ["", "Options:"]
    ++ columns (pathRow :: (if v.takesTrashed then [trashedRow] else []) ++ [helpRow]))

def Topic.text : Topic → String
  | .everything => overviewText
  | .verb v => v.helpText
  | .help => helpText

end Keyring.Cli
