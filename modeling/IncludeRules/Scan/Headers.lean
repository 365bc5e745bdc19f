import IncludeRules.Scan.Directive
import IncludeRules.Script.Basic

/-! The headers that a source reaches through its include lines. -/

namespace IncludeRules.Scan

/-- Where included names are looked for: directories in order of preference, and other names to
use for some names. `limit` bounds how deeply includes may nest. -/
structure Search where
  directories : List String
  renames : List (String × String)
  limit : Nat

/-- A limit that no tree of files in practice comes near. -/
def standardLimit : Nat :=
  1000000

def Search.renamed (search : Search) (name : String) : String :=
  (search.renames.lookup name).getD name

/-- The spelling of a name as seen from a directory. -/
def candidate (directory name : String) : String :=
  if name.toList.head? = some '/' then name
  else if directory = "" ∨ directory.toList.getLast? = some '/' then directory ++ name
  else directory ++ "/" ++ name

/-- The first candidate that exists. -/
def resolve (name : String) : List String → Script (Option String)
  | [] => return none
  | directory :: rest => do
    if ← Script.present (.ofString (candidate directory name)) then
      return some (candidate directory name)
    else resolve name rest

/-- The names that a file includes. Octets that are no UTF-8 spoil nothing but themselves. -/
def namesIn (file : String) : Script (List String) := do
  let contents ← Script.read (.ofString file)
  let contents ← Script.orFail (.unreadable file) contents
  return includedNames (Octets.lenient contents)

/-- Adds to `found` the headers that `file` reaches, depth first. A header that was found before is
not entered again, which also ends cycles. -/
def visit (search : Search) : Nat → String → List String → Script (List String)
  | 0, file, _ => .fail (.nestedTooDeep file)
  | depth + 1, file, found => do
    (← namesIn file).foldlM
      (fun found name => do
        match ← resolve (search.renamed name) search.directories with
        | none => return found
        | some path =>
          if path ∈ found then return found else visit search depth path (found ++ [path]))
      found

/-- The headers that `file` reaches, each once, in the order in which they are found. -/
def headersOf (search : Search) (file : String) : Script (List String) :=
  visit search search.limit file []

end IncludeRules.Scan
