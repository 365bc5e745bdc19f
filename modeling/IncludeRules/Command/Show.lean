import IncludeRules.Command.Generate
import IncludeRules.Json.Print

/-! The rules of one target as text, with nothing written. -/

namespace IncludeRules

def Rule.toJson (r : Rule) : Json :=
  .object [
    ("object", .text r.object),
    ("source", (r.source.map Json.text).getD .null),
    ("headers", .list (r.headers.map .text))]

/-- The rules of the named target, or of the first one, as a fragment or as JSON. -/
def showTarget (c : Config) (name : Option String) (json : Bool) : Script String := do
  let targets ← Script.ofExcept (c.select name.toList)
  match targets with
  | [] => .fail .noTargets
  | t :: _ =>
    let rules ← dependencies c t
    return if json then (Json.list (rules.map Rule.toJson)).pretty ++ "\n" else Rule.render rules

end IncludeRules
