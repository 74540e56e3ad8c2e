import Keyring.Cli.Run
import Keyring.Store.Image
import Std.Time.DateTime.Timestamp

/-! The program `kms`: it reads the clock, random bytes and the file of the store, runs one command, and writes the
file back. -/
namespace Keyring.Cli

def currentTime : IO Timestamp := do
  let nanos := (← Std.Time.Timestamp.now).toNanosecondsSinceUnixEpoch.val
  return (Timestamp.of? (nanos / 1000000000) (nanos % 1000000000).toNat).getD .epoch

def randomBytes (n : Nat) : IO Bytes := do
  return (← IO.getRandomBytes n.toUSize).toList

/-- The store in a file; the directories of its path are made on the way. -/
def loadStore (path : String) : IO (Except StoreError Store) := do
  let parent := "/".intercalate ((Path.ofString path).dropLast)
  if parent != "" then
    match ← (IO.FS.createDirAll parent).toBaseIO with
    | .ok () => pure ()
    | .error _ => return .error .io
  if Path.isDirectoryText path then return .error .database
  match ← (IO.FS.readFile path).toBaseIO with
  | .ok text =>
    match Table.ofImage? text with
    | some table => return .ok { table }
    | none => return .error .database
  | .error (.noFileOrDirectory ..) => return .ok .empty
  | .error _ => return .error .database

def saveStore (path : String) (store : Store) : IO Unit :=
  match store.table.image? with
  | some text => IO.FS.writeFile path text
  | none => pure ()

/-- Prints an outcome and returns its exit code. -/
def report (o : Outcome) : IO UInt32 := do
  (← IO.getStdout).putStr o.output
  match o.error with
  | some e => IO.eprintln ("error: " ++ e.message)
  | none => if o.exitCode = 2 then IO.eprintln "error: faulty command line; try --help"
  return o.exitCode.toUInt32

def runCommand (i : Invocation) (config : Config) : IO UInt32 := do
  let path := i.path config
  match ← loadStore path with
  | .error e => report ⟨1, "", some (.ofStore e)⟩
  | .ok store =>
    let stamp : Stamp := ⟨.ofRandom (← randomBytes 16), ← currentTime⟩
    let (outcome, store, _) := execute Tape.source i stamp store (Tape.ofBytes (← randomBytes 512))
    saveStore path store
    report outcome

/-- The values of the variables that a configuration is made of. -/
def environment : IO (String → Option String) := do
  let values ← Config.variableNames.mapM fun name => return (name, ← IO.getEnv name)
  return fun name => (values.lookup name).join

end Keyring.Cli

def main (args : List String) : IO UInt32 := do
  match Keyring.Cli.parse args with
  | none => Keyring.Cli.report .misuse
  | some (.help topic) => Keyring.Cli.report (.done topic.text)
  | some (.run i) => Keyring.Cli.runCommand i (.ofVariables (← Keyring.Cli.environment))
