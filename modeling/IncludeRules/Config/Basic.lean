import IncludeRules.Failure
import IncludeRules.Path.Basic
import IncludeRules.Rule.Fragment
import IncludeRules.Scan.Sources
import IncludeRules.Text.Blank

/-! Configurations: which sources are scanned for which output. -/

namespace IncludeRules

/-- One fragment to be written. Its own patterns and directories come before the shared ones. -/
structure Target where
  name : String
  sources : List String := []
  includes : List String := []
  objectSuffix : String := ".o"
  startDirectory : String := ""
  output : String
  headerComment : String := Rule.defaultComment
  renames : List (String × String) := []
  synonyms : List Rule.Synonym := []
  deriving DecidableEq

/-- Shared source patterns and include directories, and the targets. -/
structure Config where
  sources : List String := []
  includes : List String := []
  targets : List Target := []
  deriving DecidableEq

def Target.outputPath (t : Target) : Path :=
  .ofString t.output

namespace Config

/-- The layout that is used without any configuration. -/
def builtin : Config where
  sources := ["../src/*.cxx"]
  includes := ["../include", "../src"]
  targets := [{
    name := "gtk4"
    sources := ["../gtk4/*.cxx"]
    includes := ["../gtk4"]
    startDirectory := "../gtk4/"
    output := "../gtk4/deps.mak" }]

/-- The first problem in a list of targets; `seen` holds the names before them. -/
def checkNames (seen : List String) : List Target → Except Failure Unit
  | [] => .ok ()
  | t :: rest =>
    if Text.trim t.name.toList = [] then .error .blankTarget
    else if t.name ∈ seen then .error (.repeatedTarget t.name)
    else checkNames (seen ++ [t.name]) rest

/-- There has to be a target, and targets have names of their own that are not blank. -/
def validate (c : Config) : Except Failure Unit :=
  if c.targets = [] then .error .noTargets else checkNames [] c.targets

def target? (c : Config) (name : String) : Option Target :=
  c.targets.find? (·.name == name)

def named (c : Config) (name : String) : Except Failure Target :=
  match c.target? name with
  | some t => .ok t
  | none => .error (.unknownTarget name (c.targets.map (·.name)))

/-- The named targets in the order of the names; without names, all. -/
def select (c : Config) (names : List String) : Except Failure (List Target) :=
  if names = [] then .ok c.targets else names.mapM c.named

def sourcePatterns (c : Config) (t : Target) : List String :=
  t.sources ++ c.sources

def includeDirectories (c : Config) (t : Target) : List String :=
  t.includes ++ c.includes

/-- How the sources of a target become rules. -/
def scanner (c : Config) (t : Target) : Scan.Scanner where
  search := {
    directories := c.includeDirectories t
    renames := t.renames
    limit := Scan.standardLimit }
  startDirectory := t.startDirectory
  objectSuffix := t.objectSuffix

end Config

end IncludeRules
