import IncludeRules.Pattern.Basic

/-! Which names a pattern matches. -/

namespace IncludeRules.Pattern

def covers (c : Char) : Span → Bool
  | .one a => c == a
  | .range low high => low.toNat ≤ c.toNat && c.toNat ≤ high.toNat

/-- Whether a wildcard for a single character takes `c`. A wildcard never takes the dot that
leads a name; a dot written in the pattern does. -/
def takes (leads : Bool) (w : Wildcard) (c : Char) : Bool :=
  match w with
  | .char a => c == a
  | .any => !(leads && c == '.')
  | .oneOf spans => !(leads && c == '.') && spans.any (covers c)
  | .noneOf spans => !(leads && c == '.') && !spans.any (covers c)
  | .many | .tree => false

/-- Whether a wildcard stands for any number of characters. -/
def isStar (w : Wildcard) : Bool :=
  w == .many || w == .tree

/-- What may be left of a pattern after `c`. A star takes `c` and stays, or else takes nothing. -/
def advance (leads : Bool) (c : Char) : Pattern → List Pattern
  | [] => []
  | w :: ws =>
    if isStar w then
      if leads && c == '.' then advance leads c ws else (w :: ws) :: advance leads c ws
    else if takes leads w c then [ws]
    else []

/-- Whether one of some patterns matches the text; `leads` tells whether the text begins a
component. -/
def matchesAny (leads : Bool) (ps : List Pattern) : List Char → Bool
  | [] => ps.any (·.all isStar)
  | c :: s => matchesAny (c == '/') (ps.flatMap (advance leads c)).eraseDups s

/-- Whether a pattern matches a whole name. -/
def accepts (p : Pattern) (name : String) : Bool :=
  matchesAny true [p] name.toList

end IncludeRules.Pattern
