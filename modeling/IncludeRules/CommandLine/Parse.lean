import IncludeRules.CommandLine.Grammar
import IncludeRules.CommandLine.Similarity

/-! Understanding a command line. -/

namespace IncludeRules.CommandLine

/-- Advice that comes with an unknown argument. -/
inductive Tip where
  | option (name : String)
  | elsewhere (level : Level) (name : String)
  | asValue
  | withoutDashes
  deriving DecidableEq

/-- Why a command line is not carried out: a request for help or the version, or a mistake. -/
inductive Stop where
  | help (level : Level)
  | version
  | unknownSubcommand (level : Level) (word : String) (candidates : List String)
  | unknownArgument (level : Level) (word : String) (tip : Option Tip) (used : List Opt)
  | missingValue (o : Opt)
  | missingArguments (level : Level) (missing used : List Opt)
  | repeated (level : Level) (o : Opt)
  | excessValue (level : Level) (word : String) (o : Opt) (used : List Opt)
  | notText (level : Level)
  deriving DecidableEq

/-- Options with their values, in the order in which they were first settled. -/
abbrev Settled := List (Opt × List Octets)

/-- Adds a value to those of an option. -/
def Settled.add (o : Opt) (v : Option Octets) : Settled → Settled
  | [] => [(o, v.toList)]
  | (p, vs) :: rest => if p = o then (p, vs ++ v.toList) :: rest else (p, vs) :: add o v rest

def Settled.values (s : Settled) (o : Opt) : List Octets :=
  (s.lookup o).getD []

def Settled.has (s : Settled) (o : Opt) : Bool :=
  (s.lookup o).isSome

def Settled.opts (s : Settled) : List Opt :=
  s.map (·.1)

/-- An option whose value was read, or is still awaited, and which is not settled yet. -/
structure Pending where
  opt : Opt
  value : Option Octets

/-- The state between two arguments. After a double dash all arguments stand by their position. -/
structure State where
  settled : Settled
  pending : Option Pending
  dashed : Bool

def State.start : State :=
  ⟨[], none, false⟩

/-- Gives an option a value, which has to suit its kind. -/
def settle (l : Level) (s : Settled) (o : Opt) (v : Octets) : Except Stop Settled :=
  if s.has o && !l.repeats o then .error (.repeated l o)
  else if o.kind = .path ∧ v = [] then .error (.missingValue o)
  else if o.kind = .text ∧ (Octets.strict v).toOption.isNone then .error (.notText l)
  else .ok (s.add o (some v))

/-- Settles what is pending; an awaited value is missing then. -/
def State.flush (l : Level) (st : State) : Except Stop Settled :=
  match st.pending with
  | none => .ok st.settled
  | some ⟨o, none⟩ => .error (.missingValue o)
  | some ⟨o, some v⟩ => settle l st.settled o v

/-- What is settled before a complaint about something else. -/
def State.flushed (l : Level) (st : State) : Settled :=
  match st.flush l with
  | .ok s => s
  | .error _ => st.settled

/-- An argument by its looks. -/
inductive Shape where
  | doubleDash
  | long (name : Octets) (value : Option Octets)
  | short (rest : Octets)
  | plain
  deriving DecidableEq

def dash : UInt8 := 0x2D

def equals : UInt8 := 0x3D

def shape (a : Octets) : Shape :=
  if a = [dash, dash] then .doubleDash
  else
    match a with
    | d :: e :: rest =>
      if d = dash ∧ e = dash then
        if rest.contains equals then
          .long (rest.takeWhile (· != equals)) (some (rest.dropWhile (· != equals)).tail)
        else .long rest none
      else if d = dash then .short (e :: rest)
      else .plain
    | _ => .plain

/-- The used options that a complaint mentions. -/
def mentioned (l : Level) (opts : List Opt) : List Opt :=
  opts.filter fun o => !l.required.contains o

/-- A complaint about an unknown option: one of a similar name, if there is any, else one of a
subcommand that is named later, is what may have been meant. -/
def unknownOption (l : Level) (st : State) (name : String) (later : List Octets) : Stop :=
  let settled := st.flushed l
  match (similar name (l.options.map Opt.long)).getLast? with
  | some near =>
    let used := match l.withLong? near with
      | some o => if settled.has o then settled.opts else settled.opts ++ [o]
      | none => settled.opts
    .unknownArgument l ("--" ++ name) (some (.option near)) (mentioned l used)
  | none =>
    let owners := if l = .root then Level.subcommands else []
    let found := owners.filterMap fun sub => do
      let near ← (similar name (sub.options.map Opt.long)).getLast?
      let place ← later.findIdx? (· == Octets.ofString sub.name)
      return (place, Tip.elsewhere sub near)
    let best := found.foldl (fun (best : Option (Nat × Tip)) f =>
      match best with
      | none => some f
      | some b => some (if f.1 < b.1 then f else b)) none
    let tip := match best with
      | some (_, tip) => some tip
      | none => if l.positional.isSome then some .asValue else none
    .unknownArgument l ("--" ++ name) tip (mentioned l settled.opts)

/-- An option by its long name. -/
def readLong (l : Level) (st : State) (name : Octets) (value : Option Octets)
    (later : List Octets) : Except Stop State :=
  let word := Octets.lenient name
  match (Octets.strict name).toOption.bind l.withLong? with
  | none => .error (unknownOption l st word later)
  | some o =>
    match o.kind, value with
    | .flag, some v =>
      .error (.excessValue l (Octets.lenient v) o (mentioned l st.settled.opts ++ [o]))
    | .flag, none => do
      let s ← st.flush l
      match o with
      | .help => .error (.help l)
      | .version => .error .version
      | o =>
        if s.has o then .error (.repeated l o)
        else return { st with settled := s.add o none, pending := none }
    | _, some v => do
      let s ← settle l (← st.flush l) o v
      return { st with settled := s, pending := none }
    | _, none => do
      let s ← st.flush l
      return { st with settled := s, pending := some ⟨o, none⟩ }

/-- An option by its short name, which its value may follow at once. -/
def readShort (l : Level) (st : State) (rest : Octets) : Except Stop State :=
  let unknown (word : String) : Stop :=
    .unknownArgument l word (if l.positional.isSome then some .asValue else none) []
  match rest.firstChar? with
  | none => .error (unknown ("-" ++ Octets.lenient rest))
  | some (c, attached) =>
    match l.withShort? c with
    | none => .error (unknown ("-" ++ .ofList [c]))
    | some o => do
      let s ← st.flush l
      match o with
      | .help => .error (.help l)
      | .version => .error .version
      | o =>
        match attached with
        | [] => return { st with settled := s, pending := some ⟨o, none⟩ }
        | b :: v =>
          let s ← settle l s o (if b = equals then v else attached)
          return { st with settled := s, pending := none }

/-- A complaint about a word where none is expected. -/
def unexpectedWord (l : Level) (dashed : Bool) (a : Octets) : Stop :=
  let word := Octets.lenient a
  if l = .root then
    if dashed && ((Octets.strict a).toOption.bind Level.named?).isSome then
      .unknownArgument l word (some .withoutDashes) []
    else .unknownSubcommand l word (similar word (Level.subcommands.map Level.name))
  else .unknownArgument l word none []

/-- A word that stands by its position. -/
def readWord (l : Level) (st : State) (a : Octets) : Except Stop State :=
  let given := match l.positional with
    | some o => if st.settled.has o || (st.pending.map (·.opt)) == some o then none else some o
    | none => none
  match given with
  | some o => do
    let s ← st.flush l
    return { st with settled := s, pending := some ⟨o, some a⟩ }
  | none => .error (unexpectedWord l st.dashed a)

/-- Whether a value is awaited. -/
def State.awaits (st : State) : Option Opt :=
  match st.pending with
  | some ⟨o, none⟩ => some o
  | _ => none

/-- The requested help on a subcommand. -/
def helpOn (l : Level) : List Octets → Stop
  | [] => .help l
  | a :: rest =>
    match if l = .root then (Octets.strict a).toOption.bind Level.named? else none with
    | some sub => helpOn sub rest
    | none => .unknownSubcommand l (Octets.lenient a) []

/-- Reads the arguments of a level up to a subcommand, which is given with the arguments after
it. -/
def readArguments (l : Level) (st : State) :
    List Octets → Except Stop (State × Option (Level × List Octets))
  | [] => .ok (st, none)
  | a :: rest =>
    if st.dashed then do
      readArguments l (← readWord l st a) rest
    else
      let sub := if l = .root ∧ st.awaits = none then
        (Octets.strict a).toOption.bind Level.named? else none
      match sub with
      | some .help => .error (helpOn l rest)
      | some sub => .ok (st, some (sub, rest))
      | none =>
        match shape a with
        | .doubleDash => readArguments l { st with dashed := true } rest
        | .long name value => do
          readArguments l (← readLong l st name value rest) rest
        | .short flags => do
          readArguments l (← readShort l st flags) rest
        | .plain =>
          match st.awaits with
          | some o => readArguments l { st with pending := some ⟨o, some a⟩ } rest
          | none => do
            readArguments l (← readWord l st a) rest

/-- Everything required has to be there. -/
def complete (l : Level) (s : Settled) : Except Stop Unit :=
  let missing := l.required.filter (!s.has ·)
  if missing = [] then .ok ()
  else .error (.missingArguments l missing (s.opts ++ missing))

/-- The settled options of a level that has no subcommands. -/
def readLevel (l : Level) (args : List Octets) : Except Stop Settled := do
  let (st, _) ← readArguments l .start args
  let s ← st.flush l
  complete l s
  return s

def Settled.path? (s : Settled) (o : Opt) : Option Path :=
  (s.values o).head?.map Path.mk

def Settled.texts (s : Settled) (o : Opt) : List String :=
  (s.values o).filterMap fun v => (Octets.strict v).toOption

/-- The command that settled options stand for. -/
def commandOf (l : Level) (s : Settled) : Option Command :=
  match l with
  | .generate => some (.generate (s.texts .target))
  | .display => some (.display (s.texts .target).head? (s.has .json))
  | .convert => do
    return .convert (← s.path? .input) (← s.path? .output) (s.texts .comment).head?
  | .list => some .list
  | .root | .help => none

/-- Understands the arguments after the tool's name. A configuration that is named after the
subcommand wins over one before it. -/
def parse (args : List Octets) : Except Stop Invocation := do
  let (st, sub) ← readArguments .root .start args
  match sub with
  | none =>
    let s ← st.flush .root
    return ⟨s.path? .config, none⟩
  | some (l, rest) =>
    let inner ← readLevel l rest
    let outer ← st.flush .root
    return ⟨inner.path? .config <|> outer.path? .config, commandOf l inner⟩

end IncludeRules.CommandLine
