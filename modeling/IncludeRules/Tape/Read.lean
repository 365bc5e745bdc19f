import IncludeRules.Failure
import IncludeRules.Tape.Basic
import IncludeRules.Yaml.Reader

/-! Tapes read from YAML. -/

namespace IncludeRules

open Yaml

def readMoment : Reader Moment := fun p n => do
  let s ← Reader.text "an RFC 3339 formatted date and time string" p n
  match Moment.parse? s with
  | some m => return m
  | none => Reader.refuse p .badMoment

def readInteractionField (name : String) (i : Interaction) : Reader Interaction := fun p n => do
  match name with
  | "seq" => return { i with seq := ← Reader.number p n }
  | "port" => return { i with port := ← Reader.text "a string" p n }
  | "method" => return { i with method := ← Reader.text "a string" p n }
  | "input" => return { i with input := ← Reader.anyJson p n }
  | _ => return { i with output := ← Reader.anyJson p n }

def readInteraction : Reader Interaction := fun p n => do
  let names := ["seq", "port", "method", "input", "output"]
  let (seen, i) ← Reader.fields "struct Interaction" names ⟨0, "", "", .null, .null⟩
    readInteractionField p n
  Reader.demand p seen names
  return i

def readTapeField (name : String) (t : Tape) : Reader Tape := fun p n => do
  match name with
  | "name" => return { t with name := ← Reader.text "a string" p n }
  | "recorded_at" => return { t with recordedAt := ← readMoment p n }
  | "tool_version" => return { t with toolVersion := ← Reader.text "a string" p n }
  | _ => return { t with interactions := ← Reader.list readInteraction p n }

def readTape : Reader Tape := fun p n => do
  let names := ["name", "recorded_at", "tool_version", "interactions"]
  let (seen, t) ← Reader.fields "struct Cassette" names ⟨"", ⟨0, 0, 0⟩, "", []⟩ readTapeField p n
  Reader.demand p seen names
  return t

def Tape.ofYaml (text : String) : Except Failure Tape :=
  (Reader.read readTape text).mapError .badTape

/-- Reads the tape in a file. -/
def Tape.load (path : Path) : Script Tape := do
  let text ← Script.readText path
  let text ← Script.orFail (.unreadableTape path.display) text
  Script.ofExcept ((ofYaml text).mapError (.inFile path.display))

end IncludeRules
