import IncludeRules.Command.Dispatch
import IncludeRules.CommandLine.Help
import IncludeRules.Environment.File
import IncludeRules.Report
import IncludeRules.Tape.Print
import IncludeRules.Tape.Read
import IncludeRules.Tape.Recording
import IncludeRules.Tape.Replaying

/-! Whole runs: from the arguments and the variables to what is written and how the run ends. -/

namespace IncludeRules

variable {m : Type → Type} [Monad m]

/-- The name of the tapes that runs record. -/
def sessionName : String :=
  "depgen-session"

/-- Runs a script on a file system, or on what a tape says about one, or on a file system whose
answers go onto a tape. A tape is saved however the run ended; to replay one comes before to record
one. -/
def Settings.run (s : Settings) (now : Moment) (fs : FileSystem m) (script : Script Unit) :
    m (Run Unit) := do
  match s.replayFrom, s.recordTo with
  | some path, _ =>
    let loaded ← (Tape.load path).run fs
    match loaded.ending with
    | .done tape => return ((script.run .replaying).run (.ofTape tape)).1
    | .failed e => return ⟨[], .failed e⟩
    | .crashed c => return ⟨[], .crashed c⟩
  | none, some path =>
    let (r, log) ← (script.run fs.recording).run []
    let tape : Tape := ⟨sessionName, now, toolVersion, log⟩
    let saved ← (tape.save path).run fs
    return { r with notices := r.notices ++ saved.notices }
  | none, none => script.run fs

/-- Runs the tool with arguments. Help and the version are answers; all other stops are failures. -/
def runTool (s : Settings) (now : Moment) (fs : FileSystem m) (args : List Octets) : m (Run Unit) :=
  match CommandLine.parse args with
  | .ok i => s.run now fs (i.script s.config)
  | .error stop =>
    if stop.isAnswer then return ⟨[.printed stop.message], .done ()⟩
    else return ⟨[], .failed (.usage stop.message)⟩

/-- How a process ends: with a code, or given up with a message. -/
structure Exit where
  report : Report
  code : UInt8
  givenUp : Option String

/-- The code of a process that was given up. -/
def givenUpCode : UInt8 :=
  101

def Exit.giveUp (report : Report) (message : String) : Exit :=
  ⟨report, givenUpCode, some message⟩

/-- The end of a process after a run of the tool. A failure is told last. -/
def Exit.ofRun (verbose : Bool) (r : Run Unit) : Exit :=
  let report := Report.ofNotices verbose r.notices
  match r.ending with
  | .done () => ⟨report, 0, none⟩
  | .failed e => ⟨{ report with diagnostics := report.diagnostics ++ e.message ++ "\n" }, 1, none⟩
  | .crashed c => .giveUp report c.message

def notTextMessage (argument : Octets) : String :=
  "called \x60Result::unwrap()\x60 on an \x60Err\x60 value: " ++ Text.quotedOctets argument

/-- A process in a directory: the variables are completed from the file for the directory, and
arguments have to be texts. -/
def runProcess (e : Environment) (directory : Path) (now : Moment) (fs : FileSystem m)
    (args : List Octets) : m Exit := do
  let loaded ← (e.load directory).run fs
  match loaded.ending with
  | .failed failure => return Exit.ofRun false ⟨[], .failed failure⟩
  | .crashed crash => return Exit.ofRun false ⟨[], .crashed crash⟩
  | .done (.error u) => return .giveUp (.ofNotices false []) u.message
  | .done (.ok e) =>
    match args.find? fun a => (Octets.strict a).toOption.isNone with
    | some a => return .giveUp (.ofNotices false []) (notTextMessage a)
    | none => return Exit.ofRun e.settings.verbose (← runTool e.settings now fs args)

end IncludeRules
