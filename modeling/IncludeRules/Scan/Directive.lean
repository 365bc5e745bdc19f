import IncludeRules.Text.Lines
import IncludeRules.Text.Blank

/-! Include lines: which names a source text asks for. -/

namespace IncludeRules.Scan

def keyword : List Char :=
  "#include".toList

/-- The text without quotation marks at both ends. -/
def unquote (token : List Char) : List Char :=
  Text.dropEndWhile (· == '"') (token.dropWhile (· == '"'))

/-- The name on an include line is its second word. An angle bracket marks a system header, which
is not followed. -/
def includedName? (line : List Char) : Option (List Char) :=
  let line := Text.trim line
  if keyword.isPrefixOf line then
    match Text.words line with
    | _ :: token :: _ =>
      if token.head? = some '<' ∨ unquote token = [] then none else some (unquote token)
    | _ => none
  else none

def includedNames (text : String) : List String :=
  (Text.lines text.toList).filterMap fun line => (includedName? line).map .ofList

end IncludeRules.Scan
