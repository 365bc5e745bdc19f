import IncludeRules.Yaml.Cursor
import IncludeRules.Yaml.Plain

/-! How texts are written as YAML scalars. -/

namespace IncludeRules.Yaml

/-- The ways to write a scalar. -/
inductive Style where
  | plain
  | single
  | double
  | literal
  deriving DecidableEq

/-- Characters that can be written as they are. -/
def isPrintable (c : Char) : Bool :=
  let n := c.toNat
  n == 0x0A || (0x20 ≤ n && n ≤ 0x7E) || (0xA0 ≤ n && n ≤ 0xFFFD && n ≠ 0xFEFF) || 0x10000 ≤ n

/-- Whether a character that satisfies `p` is followed by one that satisfies `q`. -/
def hasPair (p q : Char → Bool) : List Char → Bool
  | a :: b :: rest => p a && q b || hasPair p q (b :: rest)
  | _ => false

/-- Whether a gap, a null character or the end of the text comes next. -/
def endsWord (s : List Char) : Bool :=
  startsGap s || s.head? == some '\x00'

/-- Whether a colon that ends a word or a number sign that starts one occurs after the first
character. -/
def hasInnerMark (before : Char) : List Char → Bool
  | [] => false
  | c :: rest =>
    (c == ':' && endsWord rest) || (c == '#' && endsWord [before]) || hasInnerMark c rest

/-- Whether a text would be taken for something else than a plain scalar. -/
def hasMark (s : List Char) : Bool :=
  match s with
  | [] => false
  | c :: rest =>
    "---".toList.isPrefixOf s || "...".toList.isPrefixOf s ||
      isOneOf "#,[]\x7b\x7d&*!|>'\"%@\x60" c || (isOneOf "?:-" c && endsWord rest) ||
      hasInnerMark c rest

def isBlankSpace (c : Char) : Bool :=
  c == ' '

/-- Whether all characters may stand outside double quotes, where nothing is escaped; a space before
the end of a line would be lost there. -/
def isBare (s : List Char) : Bool :=
  s.all isPrintable && !hasPair isBlankSpace isBreak s

def allowsPlain (s : List Char) : Bool :=
  isBare s && !s.any isBreak && s.head? ≠ some ' ' && s.getLast? ≠ some ' ' && !hasMark s

/-- Between single quotes a space at the start of a line is lost. -/
def allowsSingle (s : List Char) : Bool :=
  isBare s && !hasPair isBreak isBlankSpace s

def allowsLiteral (s : List Char) : Bool :=
  isBare s && s.getLast? ≠ some ' '

/-- Whether a plain scalar would be read as something else than this text. -/
def looksTyped (s : String) : Bool :=
  Meaning.isZeroPadded s.toList ||
    match Meaning.ofPlain s with
    | .text _ => false
    | _ => true

/-- The first style that suits: literal for a text of several lines, single quotes for one that
looks like another kind of value, plain for all others; then single and at last double quotes. -/
def Style.of (s : String) : Style :=
  let cs := s.toList
  if cs.contains '\n' then if allowsLiteral cs then .literal else .double
  else if allowsPlain cs && !looksTyped s then .plain
  else if allowsSingle cs then .single
  else .double

/-! ### Texts of scalars -/

/-- So many spaces. -/
def margin (n : Nat) : List Char :=
  List.replicate n ' '

def upperDigits (width n : Nat) : List Char :=
  let d := (Nat.toDigits 16 n).map Char.toUpper
  List.replicate (width - d.length) '0' ++ d

/-- The letter that stands for a character after a backslash. -/
def escapeLetter? (c : Char) : Option Char :=
  [(0x00, '0'), (0x07, 'a'), (0x08, 'b'), (0x09, 't'), (0x0A, 'n'), (0x0B, 'v'), (0x0C, 'f'),
    (0x0D, 'r'), (0x1B, 'e'), (0x22, '"'), (0x5C, '\\'), (0x85, 'N'), (0xA0, '_'), (0x2028, 'L'),
    (0x2029, 'P')].lookup c.toNat

def doubleQuotedChar (c : Char) : List Char :=
  if isPrintable c && !isBreak c && c ≠ '"' && c ≠ '\\' then [c]
  else
    match escapeLetter? c with
    | some l => ['\\', l]
    | none =>
      if c.toNat ≤ 0xFF then '\\' :: 'x' :: upperDigits 2 c.toNat
      else if c.toNat ≤ 0xFFFF then '\\' :: 'u' :: upperDigits 4 c.toNat
      else '\\' :: 'U' :: upperDigits 8 c.toNat

def doubleQuoted (s : List Char) : List Char :=
  '"' :: s.flatMap doubleQuotedChar ++ ['"']

/-- The lines of a text, each after a margin unless it is empty; `fresh` says that a line starts. -/
def indented (indent : Nat) (write : Char → List Char) (fresh : Bool) : List Char → List Char
  | [] => []
  | c :: rest =>
    if isBreak c then c :: indented indent write true rest
    else (if fresh then margin indent else []) ++ write c ++ indented indent write false rest

/-- A quote is written twice. -/
def singleQuoted (indent : Nat) (s : List Char) : List Char :=
  let write (c : Char) : List Char := if c = '\'' then ['\'', '\''] else [c]
  let closing := if s.getLast?.any isBreak then margin indent else []
  '\'' :: indented indent write false s ++ closing ++ ['\'']

/-- The columns by which a block is moved to the right. -/
def blockStep : Nat :=
  2

/-- A literal names its own margin if its first line starts with a space or is empty, and says what
becomes of the line breaks at its end unless there is just one. -/
def literalHeader (s : List Char) : List Char :=
  let unclear := s.head?.any fun c => isBlankSpace c || isBreak c
  let hint := if unclear then Nat.toDigits 10 blockStep else []
  let chomp :=
    match s.reverse with
    | [] => ['-']
    | [c] => if isBreak c then ['+'] else ['-']
    | c :: d :: _ => if !isBreak c then ['-'] else if isBreak d then ['+'] else []
  '|' :: hint ++ chomp

/-- The text of a scalar, the line break after it included. -/
def scalarText (indent : Nat) (s : String) : List Char :=
  let cs := s.toList
  match Style.of s with
  | .plain => cs ++ ['\n']
  | .single => singleQuoted (indent + blockStep) cs ++ ['\n']
  | .double => doubleQuoted cs ++ ['\n']
  | .literal =>
    literalHeader cs ++ '\n' :: indented (indent + blockStep) (fun c => [c]) true cs ++
      if cs.getLast?.any isBreak then [] else ['\n']

end IncludeRules.Yaml
