import IncludeRules.Json.Basic
import IncludeRules.Moment
import IncludeRules.Script.Basic

/-! Tapes: the recorded calls of one run. -/

namespace IncludeRules

/-- One recorded call: its arguments and its answer. -/
structure Interaction where
  seq : Nat
  port : String
  method : String
  input : Json
  output : Json

structure Tape where
  name : String
  recordedAt : Moment
  toolVersion : String
  interactions : List Interaction

/-- The port under which calls on file systems are recorded. -/
def filePort : String :=
  "fs"

/-- The version that is recorded with a tape. -/
def toolVersion : String :=
  "0.1.0"

/-- The name under which a call is recorded. -/
def Call.method : Call → String
  | .readText _ => "read_to_string"
  | .read _ => "read"
  | .write _ _ => "write"
  | .present _ => "exists"
  | .isDirectory _ => "is_dir"
  | .entries _ => "list_dir"

end IncludeRules
