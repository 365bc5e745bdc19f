import IncludeRules.Number.Print
import IncludeRules.Yaml.Fault

/-! What plain scalars mean where any value may stand. -/

namespace IncludeRules.Yaml

/-- The meaning of a scalar. Whole numbers beyond 64 bits are set apart as `wide`. -/
inductive Meaning where
  | null
  | bool (b : Bool)
  | int (n : Int)
  | wide (n : Int)
  | float (x : Binary64)
  | infinite (negative : Bool)
  | notNumber
  | text (s : String)
  deriving DecidableEq

namespace Meaning

def null? (s : String) : Bool :=
  s == "null" || s == "Null" || s == "NULL" || s == "~"

def bool? (s : String) : Option Bool :=
  if s = "true" ∨ s = "True" ∨ s = "TRUE" then some true
  else if s = "false" ∨ s = "False" ∨ s = "FALSE" then some false
  else none

def digit? (base : Nat) (c : Char) : Option Nat :=
  let n :=
    if c.isDigit then some (c.toNat - '0'.toNat)
    else if 'a' ≤ c ∧ c ≤ 'f' then some (c.toNat - 'a'.toNat + 10)
    else if 'A' ≤ c ∧ c ≤ 'F' then some (c.toNat - 'A'.toNat + 10)
    else none
  n.filter (· < base)

/-- The value of at least one digit. -/
def digits? (base : Nat) (s : List Char) : Option Nat :=
  if s.isEmpty then none
  else s.foldl (fun acc c => do return (← acc) * base + (← digit? base c)) (some 0)

/-- A sign aside, a zero followed by digits only: a text, whatever it looks like. -/
def isZeroPadded (s : List Char) : Bool :=
  let s := match s with
    | '-' :: rest | '+' :: rest => rest
    | s => s
  match s with
  | '0' :: rest => !rest.isEmpty && rest.all Char.isDigit
  | _ => false

def hasSign (s : List Char) : Bool :=
  s.head? == some '+' || s.head? == some '-'

/-- A whole number in one of the four bases, without a minus sign and below a bound. -/
def unsigned? (bound : Nat) (s : List Char) : Option Nat :=
  let bare := if s.head? = some '+' then s.tail else s
  let below (n : Option Nat) : Option Nat := n.filter (· < bound)
  let based :=
    match bare with
    | '0' :: 'x' :: rest => below (digits? 16 rest)
    | '0' :: 'o' :: rest => below (digits? 8 rest)
    | '0' :: 'b' :: rest => below (digits? 2 rest)
    | _ => none
  if hasSign bare then none
  else
    match based with
    | some n => some n
    | none => if isZeroPadded s then none else below (digits? 10 bare)

/-- A whole number after a minus sign, in one of the four bases and not below minus a bound. -/
def negative? (bound : Nat) (s : List Char) : Option Int :=
  let within (n : Option Nat) : Option Int := (n.filter (· ≤ bound)).map fun n => -(n : Int)
  let based :=
    match s with
    | '-' :: '0' :: 'x' :: rest => within (digits? 16 rest)
    | '-' :: '0' :: 'o' :: rest => within (digits? 8 rest)
    | '-' :: '0' :: 'b' :: rest => within (digits? 2 rest)
    | _ => none
  match based with
  | some n => some n
  | none =>
    if isZeroPadded s then none
    else
      match s with
      | '-' :: rest => within (digits? 10 rest)
      | _ => none

def int? (s : String) : Option Meaning :=
  let cs := s.toList
  match unsigned? (Nat.pow 2 64) cs with
  | some n => some (.int n)
  | none =>
    match negative? (Nat.pow 2 63) cs with
    | some n => some (.int n)
    | none =>
      match unsigned? (Nat.pow 2 128) cs with
      | some n => some (.wide n)
      | none => (negative? (Nat.pow 2 127) cs).map .wide

/-- A decimal numeral without sign: digits with at most one point, then perhaps an exponent. -/
def decimal? (negative : Bool) (s : List Char) : Option Binary64 :=
  let whole := s.takeWhile Char.isDigit
  let rest := s.dropWhile Char.isDigit
  let (part, rest) :=
    match rest with
    | '.' :: r => (r.takeWhile Char.isDigit, r.dropWhile Char.isDigit)
    | r => ([], r)
  let exponent? : Option Int :=
    match rest with
    | [] => some 0
    | e :: r =>
      if e = 'e' ∨ e = 'E' then
        match r with
        | '-' :: r => (digits? 10 r).map fun n => -(n : Int)
        | '+' :: r => (digits? 10 r).map fun n => (n : Int)
        | r => (digits? 10 r).map fun n => (n : Int)
      else none
  if whole.isEmpty && part.isEmpty then none
  else
    exponent?.bind fun e =>
      Binary64.ofDecimal? negative (Nat.ofDigitChars 10 (whole ++ part) 0) (e - part.length)

/-- Infinities and the value that is not a number have names of their own; numerals that are too
large for a number are none. -/
def float? (s : String) : Option Meaning :=
  let cs := s.toList
  let bare := if cs.head? = some '+' then cs.tail else cs
  if cs.head? = some '+' ∧ hasSign bare then none
  else if [".inf", ".Inf", ".INF"].contains (String.ofList bare) then some (.infinite false)
  else if ["-.inf", "-.Inf", "-.INF"].contains s then some (.infinite true)
  else if [".nan", ".NaN", ".NAN"].contains s then some .notNumber
  else
    match bare with
    | '-' :: rest => (decimal? true rest).map .float
    | rest => (decimal? false rest).map .float

/-- The meaning of a plain scalar without a tag. -/
def ofPlain (s : String) : Meaning :=
  if s = "" ∨ null? s then .null
  else
    match bool? s with
    | some b => .bool b
    | none =>
      match int? s with
      | some m => m
      | none =>
        if isZeroPadded s.toList then .text s
        else (float? s).getD (.text s)

def found : Meaning → Found
  | .null => .null
  | .bool b => .bool b
  | .int n => .int n
  | .wide n => .wide n
  | .float x => .float x.messageText
  | .infinite negative => .float (if negative then "-inf.0" else "inf.0")
  | .notNumber => .float "NaN.0"
  | .text s => .text s

/-- The meaning of a scalar: some tags ask for one kind of value, other tags for a text. -/
def ofScalar (s : String) (plain : Bool) (tag : Option String) : Except Mismatch Meaning :=
  let require (m : Option Meaning) (expected : String) : Except Mismatch Meaning :=
    match m with
    | some m => .ok m
    | none => .error (.bounds (.text s) expected)
  match tag with
  | none => .ok (if plain then ofPlain s else .text s)
  | some t =>
    if t = "tag:yaml.org,2002:bool" then require ((bool? s).map .bool) "a boolean"
    else if t = "tag:yaml.org,2002:int" then require (int? s) "an integer"
    else if t = "tag:yaml.org,2002:float" then require (float? s) "a float"
    else if t = "tag:yaml.org,2002:null" then require (if null? s then some .null else none) "null"
    else if t.toList.head? = some '!' ∧ plain then .ok (ofPlain s)
    else .ok (.text s)

end Meaning

end IncludeRules.Yaml
