import IncludeRules.Disk.Basic
import IncludeRules.Program
import Std.Time.DateTime.Timestamp

/-! The command line tool: whole runs on the disk of the machine. -/

namespace IncludeRules.Machine

/-- The text of a refusal. -/
def cause : IO.Error → String
  | .noFileOrDirectory .. => Disk.Refusal.missing.message
  | .alreadyExists .. => Disk.Refusal.taken.message
  | .inappropriateType _ 21 _ => Disk.Refusal.isDirectory.message
  | .inappropriateType _ 20 _ => Disk.Refusal.notDirectory.message
  | .invalidArgument _ 36 _ => Disk.Refusal.nameTooLong.message
  | e => toString e

/-- An action with its refusal as a value. -/
def attempt {α : Type} (action : IO α) : IO (Except String α) := do
  try return .ok (← action) catch e => return .error (cause e)

def isDirectory (p : Path) : IO Bool := do
  try (← IO.FS.realPath p.display).isDir catch _ => return false

def present (p : Path) : IO Bool := do
  try (← IO.FS.realPath p.display).pathExists catch _ => return false

def read (p : Path) : IO Octets := do
  return (← IO.FS.readBinFile p.display).toList

def readText (p : Path) : IO (Except String String) := do
  match ← attempt (read p) with
  | .error e => return .error e
  | .ok contents =>
    match Octets.strict contents with
    | .ok text => return .ok text
    | .error _ => return .error Disk.Refusal.notText.message

def write (p : Path) (text : String) : IO Unit := do
  match p.parent? with
  | none | some [] => pure ()
  | some above => IO.FS.createDirAll (Path.ofLocation above).display
  IO.FS.writeFile p.display text

def entries (p : Path) : IO (Except String (List String)) := do
  if ← isDirectory p then
    let found ← (← IO.FS.realPath p.display).readDir
    let names := found.toList.map (·.fileName)
    return .ok (names.mergeSort fun a b => decide (a ≤ b))
  else return .error (p.display ++ ": not a directory")

def fileSystem : FileSystem IO where
  answer
    | .readText p => return .ok (← readText p)
    | .read p => return .ok (← attempt (read p))
    | .write p text => return .ok (← attempt (write p text))
    | .present p => return .ok (← present p)
    | .isDirectory p => return .ok (← isDirectory p)
    | .entries p => return .ok (← entries p)

def now : IO Moment := do
  let nanos := (← Std.Time.Timestamp.now).toNanosecondsSinceUnixEpoch.val
  let seconds := nanos.fdiv 1000000000
  return ⟨seconds.fdiv 86400, (seconds.fmod 86400).toNat, (nanos.fmod 1000000000).toNat⟩

/-- The words of a file, which are the names of variables that it can refer to. -/
def words (contents : Octets) : List String :=
  let pieces (p : Char → Bool) : List String :=
    ((Octets.lenient contents).toList.splitOnP (!p ·)).map String.ofList
  (pieces (·.isAlphanum) ++ pieces fun c => c.isAlphanum || c == '_' || c == '.').eraseDups

/-- The variables that a run in a directory can ask for. -/
def environment (directory : Path) : IO Environment := do
  let found ← (Environment.fileFor? directory).run fileSystem
  let mentioned := match found.ending with
    | .done (some contents) => words contents
    | _ => []
  (Environment.known ++ mentioned).eraseDups.filterMapM fun name => do
    return (← IO.getEnv name).map fun value => (name, .ofString value)

end IncludeRules.Machine

open IncludeRules

/-- Writes to the two standard streams and ends with a code. -/
def main (args : List String) : IO UInt32 := do
  let directory := Path.ofString (← IO.currentDir).toString
  let e ← Machine.environment directory
  let exit ← runProcess e directory (← Machine.now) Machine.fileSystem
    (args.map Octets.ofString)
  (← IO.getStdout).putStr exit.report.output
  (← IO.getStderr).putStr exit.report.diagnostics
  match exit.givenUp with
  | some message => (← IO.getStderr).putStrLn message
  | none => pure ()
  return exit.code.toUInt32
