import IncludeRules.Environment.Basic
import IncludeRules.Path.Normal
import IncludeRules.Script.Basic
import IncludeRules.Text.Blank
import IncludeRules.Text.LetterTable
import IncludeRules.Text.Quoted

/-! Files that give variables values: one assignment a line, with quotes, references to other
variables, and comments. -/

namespace IncludeRules.Environment

/-! ### Lines -/

/-- Where in a line a reader is. A line that ends anywhere but in the open goes on after the line
break. -/
inductive Spot where
  | bare
  | afterBlank
  | escape
  | strong
  | strongEscape
  | weak
  | weakEscape
  deriving DecidableEq

/-- The next spot; none where a comment starts, which needs a blank before it. -/
def Spot.next (s : Spot) (c : Char) : Option Spot :=
  let unquoted : Spot :=
    if c = '\\' then .escape else if c = '"' then .weak else if c = '\'' then .strong else .bare
  match s with
  | .bare =>
    some (if Text.isBlank c && c ≠ '\n' && c ≠ '\r' then .afterBlank else unquoted)
  | .afterBlank => if c = '#' then none else some unquoted
  | .escape => some .bare
  | .strong => some (if c = '\\' then .strongEscape else if c = '\'' then .bare else .strong)
  | .strongEscape => some .strong
  | .weak => some (if c = '\\' then .weakEscape else if c = '"' then .bare else .weak)
  | .weakEscape => some .weak

/-- The spot at the end of a line, or else the part of the line before a comment. -/
def Spot.after (s : Spot) (seen : List Char) : List Char → Sum (List Char) Spot
  | [] => .inr s
  | c :: rest =>
    match s.next c with
    | none => .inl seen.reverse
    | some s => s.after (c :: seen) rest

/-- Puts lines together that belong together. What is still open at the end of the file is dropped.
-/
def statements (gathered : List Char) (spot : Spot) : List (List Char) → List (List Char)
  | [] => []
  | line :: rest =>
    let text := gathered ++ line
    if (text.dropWhile Text.isBlank).head? = some '#' then statements [] .bare rest
    else
      match spot.after [] line with
      | .inl kept => (gathered ++ kept) :: statements [] .bare rest
      | .inr .bare => text :: statements [] .bare rest
      | .inr spot => statements text spot rest

/-- Lines with their line feeds. -/
def withEnds : List Octets → List Octets
  | [] => []
  | [last] => if last = [] then [] else [last]
  | line :: rest => (line ++ [0x0A]) :: withEnds rest

/-- The lines before the first one that is no text. -/
def textLines (b : Octets) : List (List Char) :=
  let decoded := (withEnds (b.splitOnP (· == 0x0A))).map fun line => (Octets.strict line).toOption
  (decoded.takeWhile Option.isSome).filterMap (·.map String.toList)

/-- A mark at the start of a file says that it is UTF-8, and is no part of the text. -/
def withoutMark (b : Octets) : Octets :=
  if [0xEF, 0xBB, 0xBF].isPrefixOf b then b.drop 3 else b

/-! ### Assignments -/

/-- A letter or an underscore, then letters, digits, underscores and points. -/
def name? (s : List Char) : Option (String × List Char) :=
  match s with
  | [] => none
  | c :: _ =>
    let isPart (c : Char) : Bool := c.isAlphanum || c == '_' || c == '.'
    if c.isAlpha || c = '_' then some (.ofList (s.takeWhile isPart), s.dropWhile isPart) else none

/-- What follows an equals sign. -/
def afterEquals? (s : List Char) : Option (List Char) :=
  match s with
  | '=' :: rest => some rest
  | _ => none

/-- The variable of a line and the written form of its value. A word that says that the variable is
exported may come first, and may be a variable itself. -/
def assignment? (s : List Char) : Option (String × List Char) := do
  let skip (s : List Char) : List Char := s.dropWhile Text.isBlank
  let (name, rest) ← name? s
  match name == "export", afterEquals? (skip rest) with
  | true, none => do
    let (name, rest) ← name? (skip rest)
    return (name, skip (← afterEquals? (skip rest)))
  | _, value => return (name, skip (← value))

inductive Quote where
  | none
  | strong
  | weak
  deriving DecidableEq

/-- A reference to a variable starts with a dollar sign; its name may stand in braces. -/
inductive Reference where
  | none
  | open
  | braced
  deriving DecidableEq

/-- A value that is being read: the characters so far, and the name in an unfinished reference. -/
structure Reading where
  value : List Char
  quote : Quote
  escaped : Bool
  reference : Reference
  name : List Char

def Reading.start : Reading :=
  ⟨[], .none, false, .none, []⟩

/-- The value of the variable that is referred to; one that is unset has no characters. -/
def referred (e : Environment) (name : List Char) : List Char :=
  ((e.text? (.ofList name)).map String.toList).getD []

def Reading.add (r : Reading) (cs : List Char) : Reading :=
  { r with value := r.value ++ cs }

/-- Puts the value of the variable in place of a reference. -/
def Reading.resolve (e : Environment) (r : Reading) : Reading :=
  { r.add (referred e r.name) with reference := .none, name := [] }

/-- The characters that a backslash may stand before. -/
def escaped? (c : Char) : Option Char :=
  if c = 'n' then some '\n' else if "\\'\"$ ".toList.contains c then some c else none

/-- One character of a value outside comments. The character that ends a reference without braces is
taken as it is, even if it is a quote. -/
def Reading.step (e : Environment) (r : Reading) (c : Char) : Option Reading :=
  if r.escaped then
    (escaped? c).map fun d => { r.add [d] with escaped := false }
  else if r.quote = .strong then
    some (if c = '\'' then { r with quote := .none } else r.add [c])
  else
    match r.reference with
    | .open =>
      if Text.lettersAndNumbers.mem c then some { r with name := r.name ++ [c] }
      else if c = '\x7b' ∧ r.name = [] then some { r with reference := .braced }
      else
        let r := r.resolve e
        some (if c = '$' then { r with reference := .open } else r.add [c])
    | .braced =>
      some (if c = '\x7d' then r.resolve e else { r with name := r.name ++ [c] })
    | .none =>
      some (if c = '$' then { r with reference := .open }
        else if c = '\\' then { r with escaped := true }
        else if r.quote = .weak then (if c = '"' then { r with quote := .none } else r.add [c])
        else if c = '\'' then { r with quote := .strong }
        else if c = '"' then { r with quote := .weak }
        else r.add [c])

/-- Whether a value ends here: at a blank outside quotes and references. -/
def Reading.endsAt (r : Reading) (c : Char) : Bool :=
  (c == ' ' || c == '\t') && !r.escaped && r.quote == .none && r.reference == .none

/-- After a value only a comment may follow. -/
def isTrailer (s : List Char) : Bool :=
  match s.dropWhile fun c => c == ' ' || c == '\t' with
  | [] => true
  | c :: _ => c == '#'

def value? (e : Environment) (r : Reading) : List Char → Option (List Char)
  | [] =>
    if r.quote ≠ .none ∨ r.reference = .braced then none else some (r.resolve e).value
  | c :: rest =>
    if r.endsAt c then
      if isTrailer rest then some r.value else none
    else (r.step e c).bind fun r => value? e r rest

/-! ### Files -/

/-- A value that no variable can have. -/
structure Unsettable where
  name : String
  value : String

def Unsettable.message (u : Unsettable) : String :=
  "failed to set environment variable \x60" ++ Text.quotedOctets (.ofString u.name) ++
    "\x60 to \x60" ++ Text.quotedOctets (.ofString u.value) ++ "\x60: file name contained an unexpected NUL byte"

/-- Carries out assignments up to the first mistake. A variable that has a text as its value keeps
it. -/
def assign (e : Environment) : List (List Char) → Except Unsettable Environment
  | [] => .ok e
  | line :: rest =>
    let text := Text.trim line
    if text.isEmpty || text.head? == some '#' then assign e rest
    else
      let found := (assignment? text).bind fun (name, written) =>
        if written.head? = some '#' then some (name, [])
        else (value? e .start written).map fun v => (name, v)
      match found with
      | none => .ok e
      | some (name, value) =>
        if (e.text? name).isSome then assign e rest
        else if value.contains '\x00' then .error ⟨name, .ofList value⟩
        else assign (e.set name (.ofString (.ofList value))) rest

/-- The variables after the assignments in a file. -/
def withFile (e : Environment) (contents : Octets) : Except Unsettable Environment :=
  e.assign (statements [] .bare (textLines (withoutMark contents)))

/-- The directories that hold a place, the place itself first. -/
def holders (directory : Path) : List Path :=
  let cs := directory.components
  (List.range cs.length).map fun n => .ofLocation (cs.take (cs.length - n))

/-- The first of some files that exists. -/
def firstFile? : List Path → Script (Option Path)
  | [] => return none
  | p :: rest => do
    if ← Script.present p then
      if !(← Script.isDirectory p) then return some p
    firstFile? rest

/-- The contents of the file for a directory, which is the nearest one in the directory or one that
holds it. -/
def fileFor? (directory : Path) : Script (Option Octets) := do
  match ← firstFile? ((holders directory).map fun d => d.join (.ofString ".env")) with
  | none => return none
  | some file => return (← Script.read file).toOption

/-- The variables after the assignments in the file for a directory, if there is one. -/
def load (e : Environment) (directory : Path) : Script (Except Unsettable Environment) := do
  match ← fileFor? directory with
  | some contents => return e.withFile contents
  | none => return .ok e

end IncludeRules.Environment
