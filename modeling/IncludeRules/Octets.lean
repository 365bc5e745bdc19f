/-! Octet strings and their reading as UTF-8. -/

namespace IncludeRules

abbrev Octets := List UInt8

namespace Octets

/-- The UTF-8 form of a text. -/
def ofString (s : String) : Octets :=
  s.toList.flatMap String.utf8EncodeChar

/-- A character of which `seen` octets were read: `left` more are due, the next one between `low`
and `high`; `code` holds the bits so far. -/
structure Unfinished where
  seen : Nat
  left : Nat
  low : UInt8
  high : UInt8
  code : Nat
  deriving DecidableEq

/-- What an octet completes: a character, or a piece of so many octets that no character can
contain. -/
inductive Piece where
  | char (c : Char)
  | stray (length : Nat)
  deriving DecidableEq

/-- The state after the first octet of a character. The bounds on the second octet exclude long
forms, surrogates and numbers beyond the last code point. -/
def first (b : UInt8) : List Piece × Option Unfinished :=
  let n := b.toNat
  if n < 0x80 then ([.char (.ofNat n)], none)
  else if n < 0xC2 then ([.stray 1], none)
  else if n < 0xE0 then ([], some ⟨1, 1, 0x80, 0xBF, n - 0xC0⟩)
  else if n < 0xF0 then
    let low := if n = 0xE0 then 0xA0 else 0x80
    let high := if n = 0xED then 0x9F else 0xBF
    ([], some ⟨1, 2, low, high, n - 0xE0⟩)
  else if n < 0xF5 then
    let low := if n = 0xF0 then 0x90 else 0x80
    let high := if n = 0xF4 then 0x8F else 0xBF
    ([], some ⟨1, 3, low, high, n - 0xF0⟩)
  else ([.stray 1], none)

/-- An octet that cannot continue the character at hand ends a stray piece and is read afresh. -/
def step (state : Option Unfinished) (b : UInt8) : List Piece × Option Unfinished :=
  match state with
  | none => first b
  | some u =>
    if u.low ≤ b ∧ b ≤ u.high then
      let code := u.code * 0x40 + (b.toNat - 0x80)
      if u.left = 1 then ([.char (.ofNat code)], none)
      else ([], some ⟨u.seen + 1, u.left - 1, 0x80, 0xBF, code⟩)
    else
      let (pieces, state) := first b
      (.stray u.seen :: pieces, state)

/-- What replaces a stray piece in a lenient reading. -/
def replacement : Char := '\uFFFD'

def Piece.lenient : Piece → Char
  | .char c => c
  | .stray _ => replacement

/-- The lenient reading from a given state on; a character cut off by the end is one stray piece. -/
def lenientFrom (state : Option Unfinished) : Octets → List Char
  | [] => if state.isSome then [replacement] else []
  | b :: rest =>
    let (pieces, state) := step state b
    pieces.map Piece.lenient ++ lenientFrom state rest

/-- The text of an octet string in which every stray piece became one replacement character. -/
def lenient (b : Octets) : String :=
  .ofList (lenientFrom none b)

/-- Why an octet string is no UTF-8: a piece of so many octets, or a character cut off by the end,
at an index. -/
inductive Malformed where
  | stray (length index : Nat)
  | cut (index : Nat)
  deriving DecidableEq

def Malformed.message : Malformed → String
  | .stray length index =>
    "invalid utf-8 sequence of " ++ toString length ++ " bytes from index " ++ toString index
  | .cut index => "incomplete utf-8 byte sequence from index " ++ toString index

def Piece.length : Piece → Nat
  | .char c => c.utf8Size
  | .stray n => n

/-- The characters of the pieces, which start at `index`, or the first stray one. -/
def strictPieces (index : Nat) : List Piece → Except Malformed (List Char)
  | [] => .ok []
  | .char c :: rest => (c :: ·) <$> strictPieces (index + c.utf8Size) rest
  | .stray n :: _ => .error (.stray n index)

/-- The strict reading; the character at hand started at `index`. -/
def strictFrom (index : Nat) (state : Option Unfinished) : Octets → Except Malformed (List Char)
  | [] => if state.isSome then .error (.cut index) else .ok []
  | b :: rest => do
    let (pieces, state) := step state b
    let chars ← strictPieces index pieces
    let later ← strictFrom (index + (pieces.map Piece.length).sum) state rest
    return chars ++ later

/-- The text of which the octets are the UTF-8 form. -/
def strict (b : Octets) : Except Malformed String :=
  .ofList <$> strictFrom 0 none b

/-- The first character, and the octets after it. A character has at most four octets. -/
def firstChar? (b : Octets) : Option (Char × Octets) :=
  [1, 2, 3, 4].findSome? fun n =>
    match strict (b.take n) with
    | .ok s =>
      match s.toList with
      | [c] => some (c, b.drop n)
      | _ => none
    | .error _ => none

end Octets

end IncludeRules
