import IncludeRules.CommandLine.Parse
import IncludeRules.Tape.Basic

/-! What the tool says about its command line: help, its version and complaints. -/

namespace IncludeRules.CommandLine

def Level.about : Level → String
  | .root => "Generate make dependency files from #include lines"
  | .generate => "Write the dependency file of every target (or the named ones)"
  | .display => "Print the dependencies of a target without writing anything"
  | .convert => "Convert compiler-generated rules (e.g. \x60gcc -MM\x60) into a dependency file"
  | .list => "List configured targets"
  | .help => "Print this message or the help of the given subcommand(s)"

/-- The same option does different things at different levels. -/
def Opt.about (l : Level) : Opt → String
  | .config =>
    "Config file (defaults to $DEPGEN_CONFIG, then ./depgen.yaml, then the built-in target)"
  | .help => "Print help"
  | .version => "Print version"
  | .target =>
    if l = .display then "Target to show; the first configured target when omitted"
    else "Restrict to these targets"
  | .json => "Print JSON instead of makefile rules"
  | .output => "Dependency file to write"
  | .comment => "Comment line written at the top"
  | .input => "File holding the compiler output"

/-- Rows of two columns; the second one starts two blanks after the longest entry of the first. -/
def table (rows : List (String × String)) : String :=
  let width := (rows.map (·.1.length)).foldl max 0
  String.join (rows.map fun (left, right) =>
    "  " ++ left ++ .ofList (List.replicate (width + 2 - left.length) ' ') ++ right ++ "\n")

/-- An option without a short name leaves room for one. -/
def optionRow (l : Level) (o : Opt) : String × String :=
  let short := match o.short? with
    | some c => .ofList ['-', c, ',', ' ']
    | none => "    "
  (short ++ o.shown, o.about l)

/-- The configuration comes first in help and the requests for help last. -/
def helpOrder (l : Level) : List Opt :=
  let asked := [Opt.help, .version]
  let own := l.options.filter fun o => o != .config && !asked.contains o
  let shared := l.options.filter (· == .config)
  shared ++ own ++ l.options.filter asked.contains

def helpText (l : Level) : String :=
  let commands :=
    if l = .root then
      "Commands:\n" ++ table (Level.subcommands.map fun s => (s.name, s.about)) ++ "\n"
    else ""
  let arguments :=
    match l with
    | .help => "Arguments:\n" ++ table [("[COMMAND]...", "Print help for the subcommand(s)")]
    | l =>
      match l.positional with
      | some o => "Arguments:\n" ++ table [(o.shown, o.about l)] ++ "\n"
      | none => ""
  let options :=
    if l = .help then "" else "Options:\n" ++ table ((helpOrder l).map (optionRow l))
  l.about ++ "\n\nUsage: " ++ l.usage ++ "\n\n" ++ commands ++ arguments ++ options

def versionText : String :=
  Level.tool ++ " " ++ toolVersion ++ "\n"

def quote (s : String) : String :=
  "'" ++ s ++ "'"

/-- A complaint in full: what is wrong, advice, and the usage. -/
def complaint (line : String) (tip usage : Option String) : String :=
  let tip := match tip with
    | some t => "  tip: " ++ t ++ "\n\n"
    | none => ""
  let usage := match usage with
    | some u => "Usage: " ++ u ++ "\n\n"
    | none => ""
  "error: " ++ line ++ "\n\n" ++ tip ++ usage ++ "For more information, try '--help'.\n"

def subcommandTip : List String → Option String
  | [] => none
  | [one] => some ("a similar subcommand exists: " ++ quote one)
  | many => some ("some similar subcommands exist: " ++ String.intercalate ", " (many.map quote))

def Tip.text (word : String) : Tip → String
  | .option name => "a similar argument exists: " ++ quote ("--" ++ name)
  | .elsewhere level name => quote (level.name ++ " --" ++ name) ++ " exists"
  | .asValue => "to pass " ++ quote word ++ " as a value, use " ++ quote ("-- " ++ word)
  | .withoutDashes => "subcommand " ++ quote word ++ " exists; to use it, remove the '--' before it"

def Stop.message : Stop → String
  | .help l => helpText l
  | .version => versionText
  | .unknownSubcommand l word candidates =>
    complaint ("unrecognized subcommand " ++ quote word) (subcommandTip candidates) (some l.usage)
  | .unknownArgument l word tip used =>
    complaint ("unexpected argument " ++ quote word ++ " found") (tip.map (Tip.text word))
      (some (l.usageWith used))
  | .missingValue o =>
    complaint ("a value is required for " ++ quote o.shown ++ " but none was supplied") none none
  | .missingArguments l missing used =>
    complaint ("the following required arguments were not provided:" ++
      String.join (missing.map fun o => "\n  " ++ o.shown)) none (some (l.usageWith used))
  | .repeated l o =>
    complaint ("the argument " ++ quote o.shown ++ " cannot be used multiple times") none
      (some l.usage)
  | .excessValue l word o used =>
    complaint ("unexpected value " ++ quote word ++ " for " ++ quote o.shown ++
      " found; no more were expected") none (some (l.usageWith used))
  | .notText l =>
    complaint "invalid UTF-8 was detected in one or more arguments" none (some l.usage)

/-- Help and the version were asked for; they are no failures. -/
def Stop.isAnswer : Stop → Bool
  | .help _ | .version => true
  | _ => false

end IncludeRules.CommandLine
