import IncludeRules.Path.Basic

/-! The variables of a run, and what they ask for. -/

namespace IncludeRules

/-- Variables and their values, which may be any octets. Each name occurs once. -/
abbrev Environment := List (String × Octets)

/-- What variables ask of a run. -/
structure Settings where
  config : Option Path
  recordTo : Option Path
  replayFrom : Option Path
  verbose : Bool
  deriving DecidableEq

namespace Environment

/-- The value of a variable; one that is no text counts as unset. -/
def text? (e : Environment) (name : String) : Option String :=
  (e.lookup name).bind fun v => (Octets.strict v).toOption

/-- Gives a variable a value. -/
def set (name : String) (value : Octets) : Environment → Environment
  | [] => [(name, value)]
  | (n, v) :: rest => if n = name then (name, value) :: rest else (n, v) :: set name value rest

/-- The variables that the tool knows. -/
def known : List String :=
  ["DEPGEN_CONFIG", "DEPGEN_RECORD", "DEPGEN_REPLAY", "DEPGEN_VERBOSE"]

/-- An empty name of a configuration is none, but the empty path of a tape is one. Any value that is
not empty makes a run verbose, even one that is no text. -/
def settings (e : Environment) : Settings where
  config := ((e.text? "DEPGEN_CONFIG").filter (· ≠ "")).map Path.ofString
  recordTo := (e.text? "DEPGEN_RECORD").map Path.ofString
  replayFrom := (e.text? "DEPGEN_REPLAY").map Path.ofString
  verbose := (e.lookup "DEPGEN_VERBOSE").any (!·.isEmpty)

end Environment

end IncludeRules
