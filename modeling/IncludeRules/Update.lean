import IncludeRules.Rule.Fragment
import IncludeRules.Script.Basic

/-! Files that are replaced only when their contents change. -/

namespace IncludeRules

/-- Makes a file hold a text. A file that holds it already is left alone, which keeps its time. -/
def update (path : Path) (text : String) : Script Outcome := do
  if ← Script.present path then
    let current ← Script.read path
    let current ← Script.orFail (.unreadableOutput path.display) current
    if current = Octets.ofString text then return .unchanged
    let written ← Script.write path text
    Script.orFail (.unwritable path.display) written
    return .changed
  else
    let written ← Script.write path text
    Script.orFail (.unwritable path.display) written
    return .new

/-- Makes a file hold rules below a comment. -/
def updateRules (output : Path) (rules : List Rule) (comment : String) : Script Outcome :=
  update output (Rule.fragment rules comment)

end IncludeRules
