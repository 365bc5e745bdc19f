import IncludeRules.Text.Blank

/-! Moments in universal time: the proleptic Gregorian calendar, and the texts of moments. -/

namespace IncludeRules

/-- Days since 1970-01-01 and the time of day. A leap second is the last second of a minute with
a billion nanoseconds or more. -/
structure Moment where
  day : Int
  second : Nat
  nano : Nat
  deriving DecidableEq

namespace Moment

/-- A day of the calendar. -/
structure Date where
  year : Int
  month : Nat
  day : Nat
  deriving DecidableEq

/-- Years are counted from March on, so that a leap day ends its year; 400 years have 146097 days,
and 719468 lie between the first of March of year 0 and the day 0. -/
def Date.toDay (d : Date) : Int :=
  let y := if d.month ≤ 2 then d.year - 1 else d.year
  let era := y.fdiv 400
  let yearOfEra := (y.fmod 400).toNat
  let month := (d.month + 9) % 12
  let dayOfYear := (153 * month + 2) / 5 + d.day - 1
  let dayOfEra := yearOfEra * 365 + yearOfEra / 4 - yearOfEra / 100 + dayOfYear
  era * 146097 + dayOfEra - 719468

def Date.ofDay (day : Int) : Date :=
  let z := day + 719468
  let era := z.fdiv 146097
  let dayOfEra := (z.fmod 146097).toNat
  let yearOfEra := (dayOfEra - dayOfEra / 1460 + dayOfEra / 36524 - dayOfEra / 146096) / 365
  let dayOfYear := dayOfEra - (365 * yearOfEra + yearOfEra / 4 - yearOfEra / 100)
  let m := (5 * dayOfYear + 2) / 153
  let month := if m < 10 then m + 3 else m - 9
  let year := era * 400 + yearOfEra
  ⟨if month ≤ 2 then year + 1 else year, month, dayOfYear - (153 * m + 2) / 5 + 1⟩

/-- A date that comes back from its day is one of the calendar. -/
def Date.isValid (d : Date) : Bool :=
  1 ≤ d.month && d.month ≤ 12 && 1 ≤ d.day && d.day ≤ 31 && decide (Date.ofDay d.toDay = d) &&
    -262143 ≤ d.year && d.year ≤ 262142

def blanks (s : List Char) : List Char :=
  s.dropWhile Text.isBlank

/-- At least one digit and at most `most` of them. -/
def number? (most : Nat) (s : List Char) : Option (Nat × List Char) :=
  let digits := (s.take most).takeWhile Char.isDigit
  if digits.isEmpty then none
  else some (Nat.ofDigitChars 10 digits 0, s.drop digits.length)

def expect? (c : Char) (s : List Char) : Option (List Char) :=
  match s with
  | d :: rest => if d = c then some rest else none
  | [] => none

/-- Four digits, or a sign and any number of digits. -/
def year? (s : List Char) : Option (Int × List Char) :=
  match blanks s with
  | '-' :: rest => (number? rest.length rest).map fun (n, r) => (-(n : Int), r)
  | '+' :: rest => (number? rest.length rest).map fun (n, r) => ((n : Int), r)
  | s => (number? 4 s).map fun (n, r) => ((n : Int), r)

/-- The part of a second after a point, in nanoseconds; digits beyond the ninth are cut off. -/
def fraction? (s : List Char) : Option (Nat × List Char) :=
  match s with
  | '.' :: rest => do
    let (n, r) ← number? 9 rest
    let count := rest.length - r.length
    return (n * Nat.pow 10 (9 - count), r.dropWhile Char.isDigit)
  | s => some (0, s)

/-- Seconds east of universal time. -/
def offset? (s : List Char) : Option (Int × List Char) :=
  match s with
  | 'Z' :: rest | 'z' :: rest => some (0, rest)
  | '+' :: rest => hoursAndMinutes? rest
  | '-' :: rest | '−' :: rest => (hoursAndMinutes? rest).map fun (n, r) => (-n, r)
  | a :: b :: c :: rest =>
    if [a, b, c].map Char.toUpper = ['U', 'T', 'C'] then some (0, rest) else none
  | _ => none
where
  twoDigits? : List Char → Option (Nat × List Char)
    | a :: b :: rest =>
      if a.isDigit && b.isDigit then some (Nat.ofDigitChars 10 [a, b] 0, rest) else none
    | _ => none
  hoursAndMinutes? (s : List Char) : Option (Int × List Char) := do
    let (hours, s) ← twoDigits? s
    let (minutes, s) ← twoDigits? (s.dropWhile fun c => c == ':' || Text.isBlank c)
    let seconds := hours * 3600 + minutes * 60
    if hours < 24 ∧ minutes < 60 then some ((seconds : Int), s) else none

/-- The moment of a local time at an offset. -/
def ofLocal (date : Date) (second nano : Nat) (offset : Int) : Moment :=
  let local_ : Int := second - offset
  ⟨date.toDay + local_.fdiv 86400, (local_.fmod 86400).toNat, nano⟩

/-- Reads a date, a time and an offset. Blanks are allowed before every number and mark, and the
fields may have fewer digits than usual. -/
def parse? (s : String) : Option Moment := do
  let (year, s) ← year? s.toList
  let (month, s) ← number? 2 (blanks (← expect? '-' (blanks s)))
  let (day, s) ← number? 2 (blanks (← expect? '-' (blanks s)))
  let s ← match s with
    | c :: rest => if c = 'T' ∨ c = 't' ∨ c = ' ' then some rest else none
    | [] => none
  let (hour, s) ← number? 2 (blanks s)
  let (minute, s) ← number? 2 (blanks (← expect? ':' (blanks s)))
  let (second, s) ← number? 2 (blanks (← expect? ':' (blanks s)))
  let (nano, s) ← fraction? s
  let (offset, s) ← offset? (blanks s)
  let date : Date := ⟨year, month, day⟩
  if date.isValid && hour < 24 && minute < 60 && second ≤ 60 && (blanks s).isEmpty then
    let leap := second = 60
    let moment := ofLocal date (hour * 3600 + minute * 60 + if leap then 59 else second)
      (if leap then nano + 1000000000 else nano) offset
    if (Date.ofDay moment.day).isValid then some moment else none
  else none

/-- The digits of a number, zeros before them up to a width. -/
def padded (width n : Nat) : String :=
  let digits := Nat.toDigits 10 n
  .ofList (List.replicate (width - digits.length) '0' ++ digits)

/-- Years of four digits have no sign. -/
def yearText (y : Int) : String :=
  if 0 ≤ y ∧ y ≤ 9999 then padded 4 y.toNat
  else if y < 0 then "-" ++ padded 4 y.natAbs
  else "+" ++ padded 4 y.toNat

/-- The fraction with as few groups of three digits as hold it. -/
def fractionText (nano : Nat) : String :=
  if nano = 0 then ""
  else if nano % 1000000 = 0 then "." ++ padded 3 (nano / 1000000)
  else if nano % 1000 = 0 then "." ++ padded 6 (nano / 1000)
  else "." ++ padded 9 nano

def text (m : Moment) : String :=
  let d := Date.ofDay m.day
  let leap := 1000000000 ≤ m.nano
  let second := m.second % 60 + if leap then 1 else 0
  yearText d.year ++ "-" ++ padded 2 d.month ++ "-" ++ padded 2 d.day ++ "T" ++
    padded 2 (m.second / 3600) ++ ":" ++ padded 2 (m.second / 60 % 60) ++ ":" ++ padded 2 second ++
    fractionText (if leap then m.nano - 1000000000 else m.nano) ++ "Z"

end Moment

end IncludeRules
