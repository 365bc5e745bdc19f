import IncludeRules.Mismatch

/-! Why a YAML text was not read. -/

namespace IncludeRules.Yaml

/-- One step from a value to a part of it. A key that is no scalar has no name. -/
inductive Step where
  | key (name : String)
  | unnamed
  | index (n : Nat)
  deriving DecidableEq

/-- What is wrong with the value at some place. -/
inductive Problem where
  | missingField (name : String)
  | duplicateField (name : String)
  | mismatch (m : Mismatch)
  | badMoment
  | wideNumber
  | nesting
  | repetition
  deriving DecidableEq

/-- `malformed` covers all that keeps a text from being one document: its syntax, an alias without
anchor, or a second document. -/
inductive Fault where
  | malformed
  | at (path : List Step) (problem : Problem)
  deriving DecidableEq

/-- Members are joined by dots; an index follows its list directly. -/
def pathText : List Step → String
  | [] => ""
  | [s] => part s
  | s :: t :: rest =>
    let mark := match t with
      | .index _ => ""
      | _ => "."
    part s ++ mark ++ pathText (t :: rest)
where
  part : Step → String
    | .key name => name
    | .unnamed => "?"
    | .index n => "[" ++ toString n ++ "]"

def Problem.message : Problem → String
  | .missingField name => "missing field \x60" ++ name ++ "\x60"
  | .duplicateField name => "duplicate field \x60" ++ name ++ "\x60"
  | .mismatch m => m.message "unit value"
  | .badMoment => "input is not a date and time"
  | .wideNumber => "JSON number out of range"
  | .nesting => "recursion limit exceeded"
  | .repetition => "repetition limit exceeded"

def Fault.message : Fault → String
  | .malformed => "the text is not a single YAML document"
  | .at path problem =>
    if path.isEmpty then problem.message else pathText path ++ ": " ++ problem.message

end IncludeRules.Yaml
