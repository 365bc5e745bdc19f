/-! A place in a YAML text, and the classes of characters that matter there. -/

namespace IncludeRules.Yaml

/-- Characters that may stand in a text at all. -/
def isAllowed (c : Char) : Bool :=
  let n := c.toNat
  n == 0x09 || n == 0x0A || n == 0x0D || (0x20 ≤ n && n ≤ 0x7E) || n == 0x85 ||
    (0xA0 ≤ n && n ≤ 0xD7FF) || (0xE000 ≤ n && n ≤ 0xFFFD) || 0x10000 ≤ n

def isBreak (c : Char) : Bool :=
  c == '\n' || c == '\r' || c.toNat == 0x85 || c.toNat == 0x2028 || c.toNat == 0x2029

def isSpace (c : Char) : Bool :=
  c == ' ' || c == '\t'

def isGap (c : Char) : Bool :=
  isSpace c || isBreak c

/-- Characters of anchors, directive names and tag handles. -/
def isWordChar (c : Char) : Bool :=
  ('0' ≤ c && c ≤ '9') || ('A' ≤ c && c ≤ 'Z') || ('a' ≤ c && c ≤ 'z') || c == '_' || c == '-'

def isOneOf (s : String) (c : Char) : Bool :=
  s.toList.contains c

/-- Whether a gap or the end of the text comes next. -/
def startsGap : List Char → Bool
  | [] => true
  | c :: _ => isGap c

/-- The characters left, and where they start. -/
structure Cursor where
  rest : List Char
  index : Nat
  line : Nat
  column : Nat

namespace Cursor

def ofList (s : List Char) : Cursor :=
  ⟨s, 0, 0, 0⟩

/-- Passes over characters of one line. -/
def skip (c : Cursor) (n : Nat) : Cursor :=
  ⟨c.rest.drop n, c.index + n, c.line, c.column + n⟩

/-- The characters of one line that satisfy `p`, and the place after them. -/
def span (c : Cursor) (p : Char → Bool) : List Char × Cursor :=
  let taken := c.rest.takeWhile p
  (taken, c.skip taken.length)

def skipWhile (c : Cursor) (p : Char → Bool) : Cursor :=
  (c.span p).2

/-- Whether the next character satisfies `p`. -/
def next (c : Cursor) (p : Char → Bool) : Bool :=
  match c.rest with
  | [] => false
  | d :: _ => p d

def atEnd (c : Cursor) : Bool :=
  c.rest.isEmpty

def atGapOrEnd (c : Cursor) : Bool :=
  startsGap c.rest

def atBreakOrEnd (c : Cursor) : Bool :=
  c.atEnd || c.next isBreak

/-- Passes over a line break, if one comes next, and gives what it stands for in a scalar: the two
Unicode separators stand for themselves, every other break for a line feed. -/
def takeBreak (c : Cursor) : List Char × Cursor :=
  match c.rest with
  | '\r' :: '\n' :: rest => (['\n'], ⟨rest, c.index + 2, c.line + 1, 0⟩)
  | d :: rest =>
    if isBreak d then
      (if d.toNat == 0x2028 || d.toNat == 0x2029 then [d] else ['\n'],
        ⟨rest, c.index + 1, c.line + 1, 0⟩)
    else ([], c)
  | [] => ([], c)

/-- The end of a text ends its last line. -/
def endLine (c : Cursor) : Cursor :=
  if c.column = 0 then c else { c with line := c.line + 1, column := 0 }

/-- Whether a mark that starts or ends a document comes next. -/
def atDocumentMark (c : Cursor) : Bool :=
  c.column == 0 &&
    match c.rest with
    | '-' :: '-' :: '-' :: rest => startsGap rest
    | '.' :: '.' :: '.' :: rest => startsGap rest
    | _ => false

end Cursor

end IncludeRules.Yaml
