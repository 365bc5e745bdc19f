import IncludeRules.Tape.Basic
import IncludeRules.Yaml.Print

/-! Tapes as YAML. -/

namespace IncludeRules

def Interaction.toJson (i : Interaction) : Json :=
  .object [
    ("seq", .int i.seq),
    ("port", .text i.port),
    ("method", .text i.method),
    ("input", i.input),
    ("output", i.output)]

def Tape.toYaml (t : Tape) : String :=
  Yaml.document [
    ("name", .text t.name),
    ("recorded_at", .text t.recordedAt.text),
    ("tool_version", .text t.toolVersion),
    ("interactions", .list (t.interactions.map Interaction.toJson))]

/-- Writes the tape into a file and tells whether that worked. A tape that cannot be saved is no
failure of the run that it was made from. -/
def Tape.save (t : Tape) (path : Path) : Script Unit := do
  match ← Script.write path t.toYaml with
  | .ok () => Script.notify (.saved path)
  | .error cause => Script.notify (.unsaved cause)

end IncludeRules
