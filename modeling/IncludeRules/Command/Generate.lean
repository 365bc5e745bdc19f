import IncludeRules.Config.Basic
import IncludeRules.Update

/-! Writing the fragments of targets. -/

namespace IncludeRules

/-- The rules of a target, copies for synonyms included. -/
def dependencies (c : Config) (t : Target) : Script (List Rule) := do
  let rules ← Scan.find (c.scanner t) (c.sourcePatterns t)
  return Rule.insertSynonyms t.synonyms rules

def generateTarget (c : Config) (t : Target) : Script Outcome := do
  let rules ← dependencies c t
  updateRules t.outputPath rules t.headerComment

/-- Writes the fragments of the selected targets in order and tells of each as soon as it is done.
The first failure ends the run. -/
def generate (c : Config) (names : List String) : Script Unit := do
  let targets ← Script.ofExcept (c.select names)
  targets.forM fun t => do
    let outcome ← (generateTarget c t).mapFailure (.inTarget t.name)
    Script.notify (.updated t.outputPath outcome)

end IncludeRules
