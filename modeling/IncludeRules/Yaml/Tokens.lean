import IncludeRules.Yaml.Token

/-! The tokens of a YAML text, as far as they can be told. -/

namespace IncludeRules.Yaml

/-- A place that may turn out to start a key: the number of its token, and where it is. A required
key has to turn out to be one. -/
structure KeySpot where
  number : Nat
  index : Nat
  line : Nat
  column : Nat
  required : Bool

/-- `tokens` holds the tokens so far, the last one first, `released` of which are certain: a key may
still be inserted before the others. `spots` has one entry for every open bracket and one for the
text itself, the innermost first. -/
structure Scanner where
  cursor : Cursor
  flow : Nat
  indent : Int
  indents : List Int
  keyAllowed : Bool
  spots : List (Option KeySpot)
  tokens : List Token
  count : Nat
  released : Nat
  finished : Bool

abbrev Scanning := StateT Scanner Option

namespace Scanner

def start (s : List Char) : Scanner where
  cursor := .ofList s
  flow := 0
  indent := -1
  indents := []
  keyAllowed := true
  spots := [none]
  tokens := []
  count := 0
  released := 0
  finished := false

def refuse {α : Type} : Scanning α :=
  fun _ => none

def emit (t : Token) : Scanning Unit :=
  modify fun s => { s with tokens := t :: s.tokens, count := s.count + 1 }

/-- Puts a token before the token of a given number. -/
def insertAt (number : Nat) (t : Token) : Scanning Unit :=
  modify fun s =>
    let later := s.count - number
    { s with tokens := s.tokens.take later ++ t :: s.tokens.drop later, count := s.count + 1 }

/-- A key stands on one line and takes at most 1024 characters. -/
def isStale (c : Cursor) (k : KeySpot) : Bool :=
  k.line < c.line || k.index + 1024 < c.index

/-- Gives up spots that can no longer start a key; a required one may not be given up. -/
def dropStale : Scanning Unit := do
  let s ← get
  let stale (k : Option KeySpot) : Bool := (k.map (isStale s.cursor)).getD false
  if s.spots.any fun k => stale k && (k.map (·.required)).getD false then refuse
  else set { s with spots := s.spots.map fun k => if stale k then none else k }

/-- Gives up the innermost spot. -/
def dropSpot : Scanning Unit := do
  let s ← get
  match s.spots with
  | some k :: rest => if k.required then refuse else set { s with spots := none :: rest }
  | _ => return

/-- Notes that the next token may start a key. -/
def noteSpot : Scanning Unit := do
  let s ← get
  if s.keyAllowed then
    dropSpot
    modify fun t => { t with
      spots := some {
        number := s.count
        index := s.cursor.index
        line := s.cursor.line
        column := s.cursor.column
        required := s.flow == 0 && s.indent == (s.cursor.column : Int) } :: t.spots.tail }

def allowKey (b : Bool) : Scanning Unit :=
  modify fun s => { s with keyAllowed := b }

def advance (n : Nat) : Scanning Unit :=
  modify fun s => { s with cursor := s.cursor.skip n }

/-- Closes the blocks that are indented deeper than a column. -/
def closeBlocks (column : Int) : Nat → Scanning Unit
  | 0 => return
  | fuel + 1 => do
    let s ← get
    if s.flow = 0 ∧ column < s.indent then
      emit .closeBlock
      modify fun t => { t with indent := s.indents.headD (-1), indents := s.indents.tail }
      closeBlocks column fuel

def closeBlocksTo (column : Int) : Scanning Unit := do
  closeBlocks column ((← get).indents.length + 1)

/-- Opens a block when a column is deeper than the indentation; its token stands before the token
of a given number. -/
def openBlock (column : Nat) (number : Nat) (t : Token) : Scanning Unit := do
  let s ← get
  if s.flow = 0 ∧ s.indent < (column : Int) then
    set { s with indent := (column : Int), indents := s.indent :: s.indents }
    insertAt number t

/-- Passes over blanks, comments and line breaks. A tab counts as a blank only where it cannot be
taken for indentation. -/
def skipGap : Nat → Scanning Unit
  | 0 => return
  | fuel + 1 => do
    let s ← get
    let c := s.cursor
    let c := if c.column = 0 ∧ c.next (·.toNat == 0xFEFF) then c.skip 1 else c
    let tabs := s.flow != 0 || !s.keyAllowed
    let c := c.skipWhile fun d => d == ' ' || (tabs && d == '\t')
    let c := if c.next (· == '#') then c.skipWhile (!isBreak ·) else c
    if c.next isBreak then
      set { s with cursor := c.takeBreak.2, keyAllowed := s.keyAllowed || s.flow == 0 }
      skipGap fuel
    else set { s with cursor := c }

/-- An end of all blocks, as before directives and document marks. -/
def leaveBlocks : Scanning Unit := do
  closeBlocksTo (-1)
  dropSpot
  allowKey false

def readWord (t : Option (Token × Cursor)) : Scanning Unit := do
  match t with
  | none => refuse
  | some (t, c) =>
    modify fun s => { s with cursor := c }
    emit t

def readScalar (plain : Bool) (t : Option Scalar) : Scanning Unit := do
  match t with
  | none => refuse
  | some r =>
    modify fun s => { s with cursor := r.after, keyAllowed := s.keyAllowed || r.broken }
    emit (.scalar r.text plain)

def openFlow (t : Token) : Scanning Unit := do
  noteSpot
  modify fun s => { s with spots := none :: s.spots, flow := s.flow + 1 }
  allowKey true
  advance 1
  emit t

def closeFlow (t : Token) : Scanning Unit := do
  dropSpot
  modify fun s => if s.flow = 0 then s else { s with spots := s.spots.tail, flow := s.flow - 1 }
  allowKey false
  advance 1
  emit t

/-- An indicator that opens a block, unless it stands between brackets. -/
def readIndicator (block t : Token) (keyAfter : Bool) : Scanning Unit := do
  let s ← get
  if s.flow = 0 then
    if !s.keyAllowed then refuse
    openBlock s.cursor.column s.count block
  dropSpot
  allowKey keyAfter
  advance 1
  emit t

/-- A value makes the innermost spot a key; without a spot the key is empty. -/
def readValue : Scanning Unit := do
  let s ← get
  match s.spots with
  | some k :: rest =>
    insertAt k.number .key
    openBlock k.column k.number .openDict
    modify fun t => { t with spots := none :: rest }
    allowKey false
  | _ =>
    if s.flow = 0 then
      if !s.keyAllowed then refuse
      openBlock s.cursor.column s.count .openDict
    allowKey (s.flow == 0)
  advance 1
  emit .value

/-- Whether a plain scalar may start here. -/
def startsPlain (flow : Nat) (c : Cursor) : Bool :=
  let after := c.rest.drop 1
  (!c.atGapOrEnd && !c.next (isOneOf "-?:,[]\x7b\x7d#&*!|>'\"%@\x60")) ||
    (c.next (· == '-') && !(after.head?.map isSpace).getD false) ||
    (flow == 0 && c.next (isOneOf "?:") && !startsGap after)

/-- Reads one token, and those that it implies. `fuel` is more than the number of characters
left. -/
def readToken (fuel : Nat) : Scanning Unit := do
  skipGap fuel
  dropStale
  closeBlocksTo (← get).cursor.column
  let s ← get
  let c := s.cursor
  let loose := startsGap (c.rest.drop 1)
  match c.rest with
  | [] =>
    modify fun t => { t with cursor := c.endLine }
    closeBlocksTo (-1)
    dropSpot
    allowKey false
    emit .textEnd
    modify fun t => { t with finished := true }
  | d :: _ =>
    if c.column == 0 && d == '%' then
      leaveBlocks
      readWord (Token.directive? c)
    else if c.atDocumentMark then
      leaveBlocks
      advance 3
      emit (if d == '-' then .documentStart else .documentEnd)
    else if d == '[' then openFlow .openBracket
    else if d == '\x7b' then openFlow .openBrace
    else if d == ']' then closeFlow .closeBracket
    else if d == '\x7d' then closeFlow .closeBrace
    else if d == ',' then
      dropSpot
      allowKey true
      advance 1
      emit .comma
    else if d == '-' && loose then readIndicator .openList .dash true
    else if d == '?' && (s.flow != 0 || loose) then readIndicator .openDict .key (s.flow == 0)
    else if d == ':' && (s.flow != 0 || loose) then readValue
    else if d == '*' then
      noteSpot
      allowKey false
      readWord ((Token.name? c).map fun (n, c) => (.reference n, c))
    else if d == '&' then
      noteSpot
      allowKey false
      readWord ((Token.name? c).map fun (n, c) => (.anchor n, c))
    else if d == '!' then
      noteSpot
      allowKey false
      readWord (Token.tag? (s.flow != 0) c)
    else if (d == '|' || d == '>') && s.flow == 0 then
      dropSpot
      allowKey true
      readScalar false (blockScalar fuel (d == '|') s.indent (c.skip 1))
    else if d == '\'' || d == '"' then
      noteSpot
      allowKey false
      readScalar false (quotedScalar fuel c)
    else if startsPlain s.flow c then
      noteSpot
      allowKey false
      readScalar true (plainScalar fuel (s.flow != 0) s.indent c)
    else refuse

/-- A token is certain when no spot before it is left. -/
def release : Scanning Unit := do
  dropStale
  modify fun s =>
    { s with released := (s.spots.filterMap id).foldl (fun n k => min n k.number) s.count }

/-- Reads tokens up to the end of the text or to the first place where there is none. -/
def readAll : Nat → Scanner → Scanner
  | 0, s => s
  | fuel + 1, s =>
    if s.finished then s
    else
      match readToken fuel s with
      | none => s
      | some ((), t) =>
        match release t with
        | none => { t with finished := false }
        | some ((), t) => readAll fuel t

end Scanner

/-- The certain tokens of a text. One that ends with `textEnd` was read completely. -/
def tokens (text : String) : List Token :=
  let s := text.toList
  if s.all isAllowed then
    let r := Scanner.readAll (s.length + 2) (.start s)
    r.tokens.reverse.take r.released
  else []

end IncludeRules.Yaml
