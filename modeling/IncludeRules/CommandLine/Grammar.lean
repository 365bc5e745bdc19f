import IncludeRules.Path.Basic

/-! The grammar of command lines: subcommands and the options of each. -/

namespace IncludeRules

/-- What a run is asked to do. -/
inductive Command where
  | generate (targets : List String)
  | display (target : Option String) (json : Bool)
  | convert (input output : Path) (comment : Option String)
  | list
  deriving DecidableEq

/-- A command line that was understood. Without a command all targets are generated. -/
structure Invocation where
  config : Option Path
  command : Option Command
  deriving DecidableEq

namespace CommandLine

/-- The tool itself or one of its subcommands. -/
inductive Level where
  | root
  | generate
  | display
  | convert
  | list
  | help
  deriving DecidableEq

/-- Options, and the one argument that stands by its position. -/
inductive Opt where
  | config
  | help
  | version
  | target
  | json
  | output
  | comment
  | input
  deriving DecidableEq

/-- Whether an option takes a path, a text or nothing. -/
inductive Kind where
  | flag
  | path
  | text
  deriving DecidableEq

def Opt.kind : Opt → Kind
  | .config | .output | .input => .path
  | .target | .comment => .text
  | .help | .version | .json => .flag

def Opt.long : Opt → String
  | .config => "config"
  | .help => "help"
  | .version => "version"
  | .target => "target"
  | .json => "json"
  | .output => "output"
  | .comment => "comment"
  | .input => ""

def Opt.short? : Opt → Option Char
  | .help => some 'h'
  | .version => some 'V'
  | .output => some 'o'
  | _ => none

/-- The name of an option's value. -/
def Opt.value : Opt → String
  | .config => "<PATH>"
  | .target => "<NAME>"
  | .output => "<OUTPUT>"
  | .comment => "<COMMENT>"
  | .input => "<INPUT>"
  | _ => ""

/-- An option as it is named in messages. -/
def Opt.shown (o : Opt) : String :=
  match o with
  | .input => o.value
  | _ => if o.kind = .flag then "--" ++ o.long else "--" ++ o.long ++ " " ++ o.value

namespace Level

def tool : String :=
  "depgen"

def name : Level → String
  | .root => tool
  | .generate => "generate"
  | .display => "show"
  | .convert => "extract"
  | .list => "targets"
  | .help => "help"

def subcommands : List Level :=
  [.generate, .display, .convert, .list, .help]

def named? (name : String) : Option Level :=
  subcommands.find? (·.name == name)

/-- The options of a level, its own first. -/
def options : Level → List Opt
  | .root => [.config, .help, .version]
  | .generate => [.target, .config, .help]
  | .display => [.target, .json, .config, .help]
  | .convert => [.output, .comment, .config, .help]
  | .list => [.config, .help]
  | .help => []

/-- What has to be given at a level. -/
def required : Level → List Opt
  | .convert => [.output, .input]
  | _ => []

/-- Only one level has an argument that stands by its position. -/
def positional : Level → Option Opt
  | .convert => some .input
  | _ => none

/-- Whether an option may be given more than once. -/
def repeats (l : Level) (o : Opt) : Bool :=
  l == .generate && o == .target

def withLong? (l : Level) (name : String) : Option Opt :=
  l.options.find? (·.long == name)

def withShort? (l : Level) (c : Char) : Option Opt :=
  l.options.find? (·.short? == some c)

/-- The tool and, below it, the subcommand. -/
def path (l : Level) : String :=
  if l = .root then tool else tool ++ " " ++ l.name

/-- The usage in general. -/
def usage (l : Level) : String :=
  match l with
  | .root => l.path ++ " [OPTIONS] [COMMAND]"
  | .help => l.path ++ " [COMMAND]..."
  | l => String.intercalate " " (l.path :: "[OPTIONS]" :: l.required.map Opt.shown)

/-- The usage with the options that are at issue: what is required, then those that were used;
arguments that stand by their position come last. -/
def usageWith (l : Level) (used : List Opt) : String :=
  if used = [] then l.usage
  else
    let named := (l.required ++ used).eraseDups
    String.intercalate " " (l.path ::
      (named.filter (· != .input) ++ named.filter (· == .input)).map Opt.shown)

end Level

end CommandLine

end IncludeRules
