import IncludeRules.Rule.Basic
import IncludeRules.Text.Lines
import IncludeRules.Text.Blank

/-! Rules read from the text that a compiler writes. -/

namespace IncludeRules.Rule

/-- A rule while it is read; prerequisites in order. -/
structure Draft where
  object : List Char
  prerequisites : List (List Char)
  deriving DecidableEq

def Draft.rule (d : Draft) : Rule :=
  .ofPrerequisites (.ofList d.object) (d.prerequisites.map .ofList)

/-- A line that starts with a space or tab goes on with the rule before it. -/
def continues (line : List Char) : Bool :=
  line.head? == some ' ' || line.head? == some '\t'

/-- The part of a line that holds names: blanks around it and backslashes at its end are layout. -/
def content (line : List Char) : List Char :=
  Text.dropEndWhile (fun c => c == '\\' || c == ' ') (Text.trim line)

/-- A name that is kept as a prerequisite: no lone colon and nothing from the system's headers. -/
def isKept (name : List Char) : Bool :=
  name != [':'] && !Text.contains "/usr/".toList name

/-- `drafts` holds the rules so far, the last one first. Blank lines and comments add nothing,
and a line that could continue a rule but has none before it starts one. -/
def readLine (drafts : List Draft) (line : List Char) : List Draft :=
  let text := content line
  if text.isEmpty || text.head? == some '#' then drafts
  else
    let names := Text.words text
    match continues line, drafts with
    | true, d :: ds =>
      { d with prerequisites := d.prerequisites ++ names.filter isKept } :: ds
    | _, _ =>
      match names with
      | [] => drafts
      | object :: rest =>
        ⟨Text.dropEndWhile (· == ':') object, rest.filter isKept⟩ :: drafts

def extract (text : String) : List Rule :=
  ((Text.lines text.toList).foldl readLine []).reverse.map Draft.rule

end IncludeRules.Rule
