import IncludeRules.Yaml.Cursor

/-! The texts of scalars: plain, quoted and block ones. -/

namespace IncludeRules.Yaml

/-- The gap before the next part of a scalar: blanks within a line or, once `broken`, line
breaks. -/
structure Fold where
  blanks : List Char
  broken : Bool
  firstBreak : List Char
  laterBreaks : List Char

namespace Fold

def none : Fold :=
  ⟨[], false, [], []⟩

/-- What a gap stands for: a single line feed becomes a space, more of them lose one. -/
def text (f : Fold) : List Char :=
  if !f.broken then f.blanks
  else if f.firstBreak = ['\n'] then (if f.laterBreaks = [] then [' '] else f.laterBreaks)
  else f.firstBreak ++ f.laterBreaks

/-- Reads blanks and breaks. A tab before the column `margin` of a continued line is refused.
`fuel` is at least the number of characters left. -/
def read (margin : Int) : Nat → Fold → Cursor → Option (Fold × Cursor)
  | 0, f, c => some (f, c)
  | fuel + 1, f, c =>
    if c.next isSpace then
      if f.broken && decide ((c.column : Int) < margin) && c.next (· == '\t') then Option.none
      else
        let f := if f.broken then f else { f with blanks := f.blanks ++ c.rest.take 1 }
        read margin fuel f (c.skip 1)
    else if c.next isBreak then
      let (text, after) := c.takeBreak
      let f :=
        if f.broken then { f with laterBreaks := f.laterBreaks ++ text }
        else ⟨[], true, text, f.laterBreaks⟩
      read margin fuel f after
    else some (f, c)

end Fold

/-- The characters of a plain scalar up to a gap or to an indicator that ends it. Between brackets a
colon right before an indicator is refused. -/
def plainRun (flow : Bool) : List Char → Option (List Char)
  | [] => some []
  | c :: rest =>
    if isGap c then some []
    else if flow && c == ':' && (rest.head?.map (isOneOf ",?[]\x7b\x7d")).getD false then none
    else if (c == ':' && startsGap rest) || (flow && isOneOf ",[]\x7b\x7d" c) then some []
    else (plainRun flow rest).map (c :: ·)

/-- A scalar's text, whether a line break ended it, and the place after it. -/
structure Scalar where
  text : List Char
  broken : Bool
  after : Cursor

/-- Reads on in a plain scalar; `margin` is the least column of its further lines. Here and below
the fuel is more than the number of characters left. -/
def plainFrom (flow : Bool) (margin : Int) : Nat → List Char → Fold → Cursor → Option Scalar
  | 0, text, f, c => some ⟨text, f.broken, c⟩
  | fuel + 1, text, f, c =>
    if c.atDocumentMark || c.next (· == '#') then some ⟨text, f.broken, c⟩
    else do
      let run ← plainRun flow c.rest
      let (text, f) := if run.isEmpty then (text, f) else (text ++ f.text ++ run, Fold.none)
      let c := c.skip run.length
      if c.next isGap then
        let (f, c) ← Fold.read margin fuel f c
        if !flow && decide ((c.column : Int) < margin) then return ⟨text, f.broken, c⟩
        else plainFrom flow margin fuel text f c
      else return ⟨text, f.broken, c⟩

def plainScalar (fuel : Nat) (flow : Bool) (indent : Int) (c : Cursor) : Option Scalar :=
  plainFrom flow (indent + 1) fuel [] .none c

/-- The value of digits in base sixteen. -/
def hexValue? : List Char → Option Nat :=
  List.foldl (fun acc d => do
    let n ← acc
    if d.isDigit then some (16 * n + (d.toNat - '0'.toNat))
    else if 'a' ≤ d ∧ d ≤ 'f' then some (16 * n + (d.toNat - 'a'.toNat + 10))
    else if 'A' ≤ d ∧ d ≤ 'F' then some (16 * n + (d.toNat - 'A'.toNat + 10))
    else none) (some 0)

/-- The character that follows a backslash stands for another one, or says how many digits do. -/
def shortEscape? (c : Char) : Option Char :=
  [('0', 0x00), ('a', 0x07), ('b', 0x08), ('t', 0x09), ('\t', 0x09), ('n', 0x0A), ('v', 0x0B),
    ('f', 0x0C), ('r', 0x0D), ('e', 0x1B), (' ', 0x20), ('"', 0x22), ('/', 0x2F), ('\\', 0x5C),
    ('N', 0x85), ('_', 0xA0), ('L', 0x2028), ('P', 0x2029)].lookup c |>.map Char.ofNat

def escapeDigits? (c : Char) : Option Nat :=
  [('x', 2), ('u', 4), ('U', 8)].lookup c

/-- The character of an escape sequence, and its length without the backslash. -/
def escape? : List Char → Option (Char × Nat)
  | [] => none
  | c :: rest =>
    match shortEscape? c with
    | some d => some (d, 1)
    | none => do
      let count ← escapeDigits? c
      let digits := rest.take count
      let n ← if digits.length = count then hexValue? digits else none
      if n.isValidChar then some (.ofNat n, count + 1) else none

/-- The characters of a quoted scalar up to a gap or to the closing quotation mark, and whether an
escaped line break ended them. -/
def quotedRun (mark : Char) : Nat → Cursor → Option (List Char × Bool × Cursor)
  | 0, c => some ([], false, c)
  | fuel + 1, c =>
    match c.rest with
    | [] => some ([], false, c)
    | d :: rest =>
      if isGap d then some ([], false, c)
      else if mark == '\'' && d == '\'' && rest.head? == some '\'' then
        (quotedRun mark fuel (c.skip 2)).map fun (t, r) => ('\'' :: t, r)
      else if d == mark then some ([], false, c)
      else if mark == '"' && d == '\\' then
        if (rest.head?.map isBreak).getD false then some ([], true, (c.skip 1).takeBreak.2)
        else do
          let (e, length) ← escape? rest
          (quotedRun mark fuel (c.skip (length + 1))).map fun (t, r) => (e :: t, r)
      else (quotedRun mark fuel (c.skip 1)).map fun (t, r) => (d :: t, r)

/-- Reads on in a quoted scalar, up to its closing mark. -/
def quotedFrom (mark : Char) : Nat → List Char → Cursor → Option Scalar
  | 0, _, _ => none
  | fuel + 1, text, c =>
    if c.atDocumentMark || c.atEnd then none
    else do
      let (run, escaped, c) ← quotedRun mark fuel c
      let text := text ++ run
      if c.next (· == mark) then return ⟨text, false, c.skip 1⟩
      else
        let (f, c) ← Fold.read 0 fuel { Fold.none with broken := escaped } c
        quotedFrom mark fuel (text ++ f.text) c

def quotedScalar (fuel : Nat) (c : Cursor) : Option Scalar :=
  match c.rest with
  | mark :: _ => quotedFrom mark fuel [] (c.skip 1)
  | [] => none

/-- What happens to the line breaks at the end of a block. -/
inductive Chomp where
  | strip
  | clip
  | keep
  deriving DecidableEq

def chomp? : List Char → Option Chomp
  | '+' :: _ => some .keep
  | '-' :: _ => some .strip
  | _ => none

/-- The first line of a block: how to end it, and how much deeper it is indented, if that is said.
Both may come in either order. -/
def blockHeader (c : Cursor) : Option (Chomp × Nat × Cursor) := do
  let digit? (c : Cursor) : Option (Nat × Cursor) :=
    if c.next Char.isDigit then
      match (c.rest.take 1).map fun d => d.toNat - '0'.toNat with
      | [n] => if n = 0 then none else some (n, c.skip 1)
      | _ => none
    else some (0, c)
  let (chomp, increment, c) ←
    match chomp? c.rest with
    | some chomp => (digit? (c.skip 1)).map fun (n, c) => (chomp, n, c)
    | none => do
      let (n, c) ← digit? c
      if n = 0 then pure (Chomp.clip, 0, c)
      else
        match chomp? c.rest with
        | some chomp => pure (chomp, n, c.skip 1)
        | none => pure (Chomp.clip, n, c)
  let c := c.skipWhile isSpace
  let c := if c.next (· == '#') then c.skipWhile (!isBreak ·) else c
  if c.atBreakOrEnd then some (chomp, increment, c.takeBreak.2) else none

/-- Reads the indentation and empty lines before a line of a block. Without a known indentation the
deepest of these lines counts. Gives the breaks, the greatest column and the place. -/
def blockGap (indent : Nat) : Nat → List Char → Nat → Cursor → Option (List Char × Nat × Cursor)
  | 0, breaks, deepest, c => some (breaks, deepest, c)
  | fuel + 1, breaks, deepest, c =>
    let spaces := (c.rest.takeWhile (· == ' ')).length
    let c := c.skip (if indent = 0 then spaces else min spaces (indent - c.column))
    let deepest := max deepest c.column
    if (indent = 0 ∨ c.column < indent) ∧ c.next (· == '\t') then none
    else if c.next isBreak then
      let (text, c) := c.takeBreak
      blockGap indent fuel (breaks ++ text) deepest c
    else some (breaks, deepest, c)

/-- Reads the lines of a block. `lastBreak` ended the line before, `breaks` are the empty lines
after it, and `afterBlank` tells whether that line began with a blank, which keeps its break. -/
def blockLines (literal : Bool) (indent : Nat) (chomp : Chomp) :
    Nat → List Char → List Char → List Char → Bool → Cursor → Option Scalar
  | 0, text, _, _, _, c => some ⟨text, false, c⟩
  | fuel + 1, text, lastBreak, breaks, afterBlank, c =>
    if c.column = indent ∧ !c.atEnd then do
      let blank := c.next isSpace
      let joint :=
        if !literal ∧ lastBreak = ['\n'] ∧ !afterBlank ∧ !blank then
          if breaks = [] then [' '] else breaks
        else lastBreak ++ breaks
      let (line, c) := c.span (!isBreak ·)
      let (lastBreak, c) := c.takeBreak
      let (breaks, _, c) ← blockGap indent fuel [] 0 c
      blockLines literal indent chomp fuel (text ++ joint ++ line) lastBreak breaks blank c
    else
      let ending :=
        match chomp with
        | .strip => []
        | .clip => lastBreak
        | .keep => lastBreak ++ breaks
      some ⟨text ++ ending, false, c⟩

/-- Reads a block scalar after its indicator. `parent` is the indentation around it. -/
def blockScalar (fuel : Nat) (literal : Bool) (parent : Int) (c : Cursor) : Option Scalar := do
  let (chomp, increment, c) ← blockHeader c
  let known : Nat := if increment = 0 then 0 else (max parent 0).toNat + increment
  let (breaks, deepest, c) ← blockGap known fuel [] 0 c
  let indent := if known = 0 then max (max deepest (parent + 1).toNat) 1 else known
  blockLines literal indent chomp fuel [] [] breaks false c

end IncludeRules.Yaml
