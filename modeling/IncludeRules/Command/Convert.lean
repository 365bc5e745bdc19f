import IncludeRules.Rule.Extract
import IncludeRules.Update

/-! Turning the rules that a compiler wrote into a fragment. -/

namespace IncludeRules

/-- Makes `output` hold the rules that are read from `input`. -/
def convert (input output : Path) (comment : Option String) : Script Outcome := do
  let contents ← Script.read input
  let contents ← Script.orFail (.unreadable input.display) contents
  let rules := Rule.extract (Octets.lenient contents)
  updateRules output rules (comment.getD Rule.defaultComment)

end IncludeRules
