import IncludeRules.Command.Convert
import IncludeRules.Command.Show
import IncludeRules.CommandLine.Grammar
import IncludeRules.Config.Listing
import IncludeRules.Config.Read

/-! Carrying out what a command line asks for. -/

namespace IncludeRules

/-- Every command but a conversion starts with a configuration; `environment` is the one that the
environment names. -/
def Invocation.script (i : Invocation) (environment : Option Path) : Script Unit :=
  let config := Config.locate i.config environment
  match i.command with
  | none => do generate (← config) []
  | some (.generate targets) => do generate (← config) targets
  | some (.display target json) => do
    let text ← showTarget (← config) target json
    Script.notify (.printed text)
  | some (.convert input output comment) => do
    let outcome ← convert input output comment
    Script.notify (.updated output outcome)
  | some .list => do Script.notify (.printed (← config).listing)

end IncludeRules
