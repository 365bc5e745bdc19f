import IncludeRules.Config.Basic

/-! The list of configured targets as text. -/

namespace IncludeRules.Config

/-- Names are padded by characters to the greatest number of octets in a name. -/
def listingLine (c : Config) (width : Nat) (t : Target) : String :=
  t.name ++ .ofList (List.replicate (width - t.name.length) ' ') ++ "  " ++ t.outputPath.display ++
    "  [" ++ String.intercalate ", " (c.sourcePatterns t) ++ "]\n"

def listing (c : Config) : String :=
  let width := (c.targets.map (·.name.utf8ByteSize)).foldl max 0
  String.join (c.targets.map (c.listingLine width))

end IncludeRules.Config
