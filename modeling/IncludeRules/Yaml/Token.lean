import IncludeRules.Octets
import IncludeRules.Yaml.Scalar

/-! Tokens of YAML texts, and the reading of those that are words. -/

namespace IncludeRules.Yaml

/-- `dash`, `comma`, `key` and `value` are the indicators of items and members; a block is opened
and closed by its indentation. -/
inductive Token where
  | version (major minor : Nat)
  | tagHandle (handle target : List Char)
  | documentStart
  | documentEnd
  | textEnd
  | openList
  | openDict
  | closeBlock
  | openBracket
  | closeBracket
  | openBrace
  | closeBrace
  | dash
  | comma
  | key
  | value
  | reference (name : List Char)
  | anchor (name : List Char)
  | tag (handle suffix : List Char)
  | scalar (text : List Char) (plain : Bool)
  deriving DecidableEq

namespace Token

/-- The name after an anchor's or alias's mark, which has to be set off from what follows. -/
def name? (c : Cursor) : Option (List Char × Cursor) :=
  let (name, c) := (c.skip 1).span isWordChar
  if !name.isEmpty && (c.atGapOrEnd || c.next (isOneOf "?:,]\x7d%@\x60")) then some (name, c)
  else none

def isUriChar (verbatim : Bool) (c : Char) : Bool :=
  isWordChar c || isOneOf ";/?:@&=+$.!~*'()" c || (verbatim && isOneOf ",[]" c)

/-- Octets that are written as a percent sign and two digits each. -/
def escapedOctets : Nat → Cursor → Option (Octets × Cursor)
  | 0, c => some ([], c)
  | fuel + 1, c =>
    if c.next (· == '%') then do
      let digits := (c.rest.drop 1).take 2
      let n ← if digits.length = 2 then hexValue? digits else none
      let (more, c) ← escapedOctets fuel (c.skip 3)
      return (UInt8.ofNat n :: more, c)
    else some ([], c)

/-- The characters of a tag; escaped octets have to be UTF-8. -/
def uri (verbatim : Bool) : Nat → Cursor → Option (List Char × Cursor)
  | 0, c => some ([], c)
  | fuel + 1, c =>
    match c.rest with
    | [] => some ([], c)
    | d :: _ =>
      if d == '%' then do
        let (octets, c) ← escapedOctets c.rest.length c
        let text ← (Octets.strict octets).toOption
        (uri verbatim fuel c).map fun (t, c) => (text.toList ++ t, c)
      else if isUriChar verbatim d then (uri verbatim fuel (c.skip 1)).map fun (t, c) => (d :: t, c)
      else some ([], c)

/-- A tag in angle brackets has no handle. In `!name` the first mark is the handle, and a mark
alone is a suffix. -/
def tag? (flow : Bool) (c : Cursor) : Option (Token × Cursor) := do
  let (token, c) ←
    if (c.rest.drop 1).head? = some '<' then do
      let (suffix, c) ← uri true c.rest.length (c.skip 2)
      if suffix.isEmpty || !c.next (· == '>') then none
      else pure (Token.tag [] suffix, c.skip 1)
    else do
      let (word, c) := (c.skip 1).span isWordChar
      if c.next (· == '!') then
        let handle := '!' :: word ++ ['!']
        let (suffix, c) ← uri false c.rest.length (c.skip 1)
        if suffix.isEmpty then none else pure (Token.tag handle suffix, c)
      else
        let (rest, c) ← uri false c.rest.length c
        let suffix := word ++ rest
        pure (if suffix.isEmpty then Token.tag [] ['!'] else Token.tag ['!'] suffix, c)
  if (flow && c.next (· == ',')) || c.atGapOrEnd then some (token, c) else none

/-- A number of at most nine digits. -/
def number? (c : Cursor) : Option (Nat × Cursor) :=
  let (digits, c) := c.span Char.isDigit
  if digits.isEmpty || 9 < digits.length then none else some (Nat.ofDigitChars 10 digits 0, c)

/-- The rest of a directive's line may hold a comment. -/
def endOfDirective (c : Cursor) : Option Cursor :=
  let c := c.skipWhile isSpace
  let c := if c.next (· == '#') then c.skipWhile (!isBreak ·) else c
  if c.atBreakOrEnd then some c.takeBreak.2 else none

def versionDirective? (c : Cursor) : Option (Token × Cursor) := do
  let (major, c) ← number? (c.skipWhile isSpace)
  if !c.next (· == '.') then none
  else
    let (minor, c) ← number? (c.skip 1)
    return (.version major minor, ← endOfDirective c)

def tagDirective? (c : Cursor) : Option (Token × Cursor) := do
  let c := c.skipWhile isSpace
  if !c.next (· == '!') then none
  else
    let (word, c) := (c.skip 1).span isWordChar
    let closed := c.next (· == '!')
    if !closed && !word.isEmpty then none
    else
      let handle := '!' :: word ++ (if closed then ['!'] else [])
      let c := if closed then c.skip 1 else c
      if !c.next isSpace then none
      else
        let c := c.skipWhile isSpace
        let (target, c) ← uri true c.rest.length c
        if target.isEmpty || !c.atGapOrEnd then none
        else return (.tagHandle handle target, ← endOfDirective c)

def directive? (c : Cursor) : Option (Token × Cursor) :=
  let (name, c) := (c.skip 1).span isWordChar
  if !c.atGapOrEnd then none
  else if name = "YAML".toList then versionDirective? c
  else if name = "TAG".toList then tagDirective? c
  else none

end Token

end IncludeRules.Yaml
