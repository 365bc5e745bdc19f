import IncludeRules.Rule.Basic
import IncludeRules.Text.Blank

/-! The text of rules: a fragment to be included by a makefile. -/

namespace IncludeRules.Rule

/-- The comment of a fragment for which none is configured. -/
def defaultComment : String :=
  "# Created by DepGen.py. To recreate, run DepGen.py."

/-- Every prerequisite stands on a continued line of its own. -/
def renderOne (r : Rule) : String :=
  r.object ++ ":" ++ String.join (r.prerequisites.map (" \\\n\t" ++ ·)) ++ "\n"

def render (rules : List Rule) : String :=
  String.join (rules.map renderOne)

/-- A whole fragment: the comment without trailing blanks, then the rules. -/
def fragment (rules : List Rule) (comment : String) : String :=
  .ofList (Text.trimEnd comment.toList) ++ "\n" ++ render rules

end IncludeRules.Rule
