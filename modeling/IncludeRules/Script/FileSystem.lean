import IncludeRules.Json.Print
import IncludeRules.Script.Basic
import IncludeRules.Text.Quoted

/-! File systems as what answers calls, and the runs of scripts on them. -/

namespace IncludeRules

/-- Why a call was not answered at all: a tape that is replayed does not fit the run. -/
inductive Crash where
  | exhausted (tape method wanted : String)
  | diverged (tape : String) (seq : Nat) (method recorded wanted : String)
  | notFlag (method : String) (output : Json)

def Crash.message : Crash → String
  | .exhausted tape method wanted =>
    "cassette " ++ Text.quoted tape ++ " has no more fs::" ++ method ++ " calls (wanted " ++
      wanted ++ ")"
  | .diverged tape seq method recorded wanted =>
    "cassette " ++ Text.quoted tape ++ " diverged at seq " ++ toString seq ++ ": fs::" ++ method ++
      " was recorded for " ++ recorded ++ ", replayed for " ++ wanted
  | .notFlag method output => "fs::" ++ method ++ ": expected a boolean, got " ++ output.compact

/-- A file system answers calls within a monad that holds its state. -/
structure FileSystem (m : Type → Type) where
  answer : (c : Call) → m (Except Crash c.Answer)

inductive Ending (α : Type) where
  | done (value : α)
  | failed (failure : Failure)
  | crashed (crash : Crash)

/-- What a run told, in order, and how it ended. -/
structure Run (α : Type) where
  notices : List Notice
  ending : Ending α

variable {m : Type → Type} [Monad m] {α : Type}

def Script.run (fs : FileSystem m) : Script α → m (Run α)
  | .done a => pure ⟨[], .done a⟩
  | .fail e => pure ⟨[], .failed e⟩
  | .call c next => do
    match ← fs.answer c with
    | .ok answer => (next answer).run fs
    | .error crash => pure ⟨[], .crashed crash⟩
  | .tell n next => do
    let r ← next.run fs
    pure { r with notices := n :: r.notices }

namespace FileSystem

/-- A refusal of calls of one kind on one file, however its path is spelled, with a text. -/
structure Refusal where
  method : String
  path : Path
  cause : String

/-- Whether a refusal meets a call on a path. -/
def Refusal.meets (method : String) (path : Path) (r : Refusal) : Bool :=
  r.method == method && decide (r.path.components = path.components)

/-- The text with which the first refusal that meets a call refuses it. -/
def refusal? (refusals : List Refusal) (method : String) (path : Path) : Option String :=
  (refusals.find? (·.meets method path)).map (·.cause)

/-- Refuses some calls and hands on the rest. Questions for a truth value cannot be refused. -/
def refusing (refusals : List Refusal) (fs : FileSystem m) : FileSystem m where
  answer
    | .readText p =>
      match refusal? refusals "read_to_string" p with
      | some cause => pure (.ok (.error cause))
      | none => fs.answer (.readText p)
    | .read p =>
      match refusal? refusals "read" p with
      | some cause => pure (.ok (.error cause))
      | none => fs.answer (.read p)
    | .write p text =>
      match refusal? refusals "write" p with
      | some cause => pure (.ok (.error cause))
      | none => fs.answer (.write p text)
    | .entries p =>
      match refusal? refusals "list_dir" p with
      | some cause => pure (.ok (.error cause))
      | none => fs.answer (.entries p)
    | .present p => fs.answer (.present p)
    | .isDirectory p => fs.answer (.isDirectory p)

end FileSystem

end IncludeRules
