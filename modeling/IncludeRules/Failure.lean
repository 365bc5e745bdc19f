import IncludeRules.Pattern.Basic
import IncludeRules.Yaml.Fault

/-! Why a run failed. -/

namespace IncludeRules

/-- A `cause` is the text with which a file system refused a call. -/
inductive Failure where
  | refused (cause : String)
  | unreadable (file : String) (cause : String)
  | nestedTooDeep (file : String)
  | wildcardDirectory (pattern : String)
  | badPattern (pattern : String) (error : Pattern.Error)
  | unlistable (directory pattern cause : String)
  | unreadableOutput (path cause : String)
  | unwritable (path cause : String)
  | noTargets
  | blankTarget
  | repeatedTarget (name : String)
  | unknownTarget (name : String) (available : List String)
  | unreadableConfig (path cause : String)
  | badConfig (fault : Yaml.Fault)
  | unreadableTape (path cause : String)
  | badTape (fault : Yaml.Fault)
  | usage (text : String)
  | inFile (path : String) (failure : Failure)
  | inTarget (name : String) (failure : Failure)
  deriving DecidableEq

def Failure.message : Failure → String
  | .refused cause => cause
  | .unreadable file cause => "failed to read " ++ file ++ ": " ++ cause
  | .nestedTooDeep file => "includes are nested too deeply at " ++ file
  | .wildcardDirectory pattern => pattern ++ ": wildcards are only supported in the file name"
  | .badPattern pattern error => "invalid glob " ++ pattern ++ ": " ++ error.message
  | .unlistable directory pattern cause =>
    "failed to list " ++ directory ++ " for " ++ pattern ++ ": " ++ cause
  | .unreadableOutput path cause => "failed to read existing " ++ path ++ ": " ++ cause
  | .unwritable path cause => "failed to write " ++ path ++ ": " ++ cause
  | .noTargets => "config defines no targets"
  | .blankTarget => "target with an empty name"
  | .repeatedTarget name => "duplicate target name: " ++ name
  | .unknownTarget name available =>
    "unknown target " ++ name ++ "; available: " ++ String.intercalate ", " available
  | .unreadableConfig path cause => "failed to read config " ++ path ++ ": " ++ cause
  | .badConfig fault => "failed to parse config: " ++ fault.message
  | .unreadableTape path cause => "Failed to read cassette file " ++ path ++ ": " ++ cause
  | .badTape fault => "failed to parse cassette: " ++ fault.message
  | .usage text => text
  | .inFile path failure => path ++ ": " ++ failure.message
  | .inTarget name failure => "target " ++ name ++ ": " ++ failure.message

end IncludeRules
