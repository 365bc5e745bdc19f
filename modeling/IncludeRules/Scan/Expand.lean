import IncludeRules.Pattern.Match
import IncludeRules.Script.Basic
import IncludeRules.Text.Lower

/-! The files that a pattern names. -/

namespace IncludeRules.Scan

/-- Both kinds of slash end the directory part of a pattern. -/
def isSeparator (c : Char) : Bool :=
  c == '/' || c == '\\'

/-- The directory part with its last separator, and the name part. -/
def splitPattern (pattern : String) : List Char × List Char :=
  Text.splitAfterLast isSeparator pattern.toList

/-- The directory that the directory part of a pattern stands for. -/
def directoryOf (part : List Char) : String :=
  if part = [] then "." else if part = ['/'] then "/" else .ofList part.dropLast

/-- Sorts paths by their lower-case forms; paths with the same form keep their order. -/
def sortFolded (paths : List String) : List String :=
  let key (path : String) : String := .ofList (Text.lower path.toList)
  paths.mergeSort fun a b => decide (key a ≤ key b)

/-- The paths a pattern stands for, spelled with its directory part. Wildcards may stand in the
name part only; a directory part that is no directory has no matches. -/
def expand (pattern : String) : Script (List String) := do
  let (part, name) := splitPattern pattern
  if Pattern.hasWildcard part then
    .fail (.wildcardDirectory pattern)
  else if !Pattern.hasWildcard name then
    let found ← Script.present (.ofString pattern)
    return if found then [pattern] else []
  else
    let directory := directoryOf part
    if !(← Script.isDirectory (.ofString directory)) then
      return []
    else
      let p ← Script.ofExcept ((Pattern.parse name).mapError (.badPattern pattern))
      let entries ← Script.entries (.ofString directory)
      let entries ← Script.orFail (.unlistable directory pattern) entries
      return sortFolded ((entries.filter p.accepts).map (String.ofList part ++ ·))

end IncludeRules.Scan
