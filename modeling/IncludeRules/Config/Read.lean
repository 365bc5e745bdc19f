import IncludeRules.Config.Basic
import IncludeRules.Script.Basic
import IncludeRules.Yaml.Reader

/-! Configurations read from YAML, and where a run finds its configuration. -/

namespace IncludeRules

open Yaml

def readSynonym : Reader Rule.Synonym := fun p n => do
  let names := ["object", "alias"]
  let (seen, s) ← Reader.fields "struct Synonym" names (Rule.Synonym.mk "" "")
    (fun name s p n => do
      let t ← Reader.text "a string" p n
      return if name = "object" then { s with object := t } else { s with copy := t }) p n
  Reader.demand p seen names
  return s

def readTexts : Reader (List String) :=
  Reader.list (Reader.text "a string")

def readTargetField (name : String) (t : Target) : Reader Target := fun p n => do
  match name with
  | "name" => return { t with name := ← Reader.text "a string" p n }
  | "sources" => return { t with sources := ← readTexts p n }
  | "includes" => return { t with includes := ← readTexts p n }
  | "object_suffix" => return { t with objectSuffix := ← Reader.text "a string" p n }
  | "start_directory" => return { t with startDirectory := ← Reader.text "a string" p n }
  | "output" => return { t with output := ← Reader.text "path string" p n }
  | "header_comment" => return { t with headerComment := ← Reader.text "a string" p n }
  | "renames" => return { t with renames := ← Reader.texts p n }
  | _ => return { t with synonyms := ← Reader.list readSynonym p n }

def readTarget : Reader Target := fun p n => do
  let names := ["name", "sources", "includes", "object_suffix", "start_directory", "output",
    "header_comment", "renames", "synonyms"]
  let (seen, t) ← Reader.fields "struct TargetConfig" names { name := "", output := "" }
    readTargetField p n
  Reader.demand p seen ["name", "output"]
  return t

def readConfigField (name : String) (c : Config) : Reader Config := fun p n => do
  match name with
  | "sources" => return { c with sources := ← readTexts p n }
  | "includes" => return { c with includes := ← readTexts p n }
  | _ => return { c with targets := ← Reader.list readTarget p n }

def readConfig : Reader Config := fun p n => do
  let (_, c) ← Reader.fields "struct DepGenConfig" ["sources", "includes", "targets"] {}
    readConfigField p n
  return c

namespace Config

/-- Reads and validates a configuration. -/
def ofYaml (text : String) : Except Failure Config := do
  let c ← (Reader.read readConfig text).mapError .badConfig
  c.validate
  return c

def load (path : Path) : Script Config := do
  let text ← Script.readText path
  let text ← Script.orFail (.unreadableConfig path.display) text
  Script.ofExcept ((ofYaml text).mapError (.inFile path.display))

/-- The file that is used when it exists and no other is named. -/
def standardFile : Path :=
  .ofString "depgen.yaml"

/-- The configuration that was asked for, else the one that the environment names, else the standard
file, else the built-in one. -/
def locate (asked environment : Option Path) : Script Config := do
  match asked, environment with
  | some path, _ => load path
  | none, some path => load path
  | none, none =>
    if ← Script.present standardFile then load standardFile else return builtin

end Config

end IncludeRules
