import IncludeRules.Path.Basic
import IncludeRules.Rule.Basic
import IncludeRules.Scan.Expand
import IncludeRules.Scan.Headers

/-! Rules for all sources that patterns name. -/

namespace IncludeRules.Scan

/-- How sources become rules. -/
structure Scanner where
  search : Search
  startDirectory : String
  objectSuffix : String

/-- A path as it is reported: with plain slashes and without the start directory before it. -/
def shorten (start path : String) : String :=
  let plain := path.toList.map fun c => if c == '\\' then '/' else c
  match start.toList.isPrefixOf? plain with
  | some rest => if start = "" then .ofList plain else .ofList rest
  | none => .ofList plain

/-- The object of a source: the stem of its file name, then the suffix. -/
def objectName (source suffix : String) : String :=
  (((Path.ofString source).stem?).map Octets.lenient).getD "" ++ suffix

def ruleOf (scanner : Scanner) (source : String) : Script Rule := do
  let headers ← headersOf scanner.search source
  Script.notify (.scanned source headers.length)
  return {
    object := objectName source scanner.objectSuffix
    source := some (shorten scanner.startDirectory source)
    headers := headers.map (shorten scanner.startDirectory) }

/-- The rules of all sources, pattern by pattern. -/
def find (scanner : Scanner) (patterns : List String) : Script (List Rule) := do
  let rules ← patterns.mapM fun pattern => do
    let sources ← expand pattern
    sources.mapM (ruleOf scanner)
  return rules.flatten

end IncludeRules.Scan
