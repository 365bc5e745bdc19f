import IncludeRules.Path.Basic

/-! Lexical normal forms of paths, which name the files that are kept in memory. -/

namespace IncludeRules

/-- The components left when dots and names followed by their parent are gone. -/
abbrev Location := List Component

namespace Path

/-- `stack` holds the components so far, the last one first. A parent step takes back a name and
piles up on anything else. -/
def push (stack : List Component) : Component → List Component
  | .here => stack
  | .parent =>
    match stack with
    | .name _ :: below => below
    | _ => .parent :: stack
  | c => c :: stack

def location (p : Path) : Location :=
  (p.components.foldl push []).reverse

/-- The spelling of components: a root is a slash, and a slash stands between all others. -/
def spell : List Component → Octets
  | [] => []
  | .root :: rest => slash :: spell rest
  | [c] => piece c
  | c :: rest => piece c ++ slash :: spell rest
where
  piece : Component → Octets
    | .root => []
    | .here => [dot]
    | .parent => [dot, dot]
    | .name n => n

def ofLocation (l : Location) : Path :=
  ⟨spell l⟩

end Path

end IncludeRules
