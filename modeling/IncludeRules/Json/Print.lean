import IncludeRules.Json.Basic
import IncludeRules.Number.Print

/-! Texts of JSON values: on one line, and spread over lines. -/

namespace IncludeRules.Json

/-- Four digits in base sixteen. -/
def fourDigits (n : Nat) : List Char :=
  let d := Nat.toDigits 16 n
  List.replicate (4 - d.length) '0' ++ d

def escape (c : Char) : List Char :=
  if c == '"' then ['\\', '"']
  else if c == '\\' then ['\\', '\\']
  else if c == '\n' then ['\\', 'n']
  else if c == '\r' then ['\\', 'r']
  else if c == '\t' then ['\\', 't']
  else if c.toNat == 0x08 then ['\\', 'b']
  else if c.toNat == 0x0C then ['\\', 'f']
  else if c.toNat < 0x20 then ['\\', 'u'] ++ fourDigits c.toNat
  else [c]

def quote (s : String) : String :=
  .ofList ('"' :: s.toList.flatMap escape ++ ['"'])

def commaSeparated : List String → String
  | [] => ""
  | [s] => s
  | s :: rest => s ++ "," ++ commaSeparated rest

mutual

/-- The text without any blanks between tokens. -/
def compact : Json → String
  | .null => "null"
  | .bool b => if b then "true" else "false"
  | .int n => toString n
  | .float x => x.dataText
  | .text s => quote s
  | .list items => "[" ++ commaSeparated (compactItems items) ++ "]"
  | .object members => "\x7b" ++ commaSeparated (compactMembers members) ++ "\x7d"

def compactItems : List Json → List String
  | [] => []
  | v :: rest => compact v :: compactItems rest

def compactMembers : List (String × Json) → List String
  | [] => []
  | (n, v) :: rest => (quote n ++ ":" ++ compact v) :: compactMembers rest

end

/-- A bracketed block with one entry per line, two blanks deeper than `indent`. -/
def block (opening closing : String) (indent : Nat) (entries : List String) : String :=
  let margin (n : Nat) : String := .ofList (List.replicate n ' ')
  if entries.isEmpty then opening ++ closing
  else
    opening ++ "\n" ++ String.intercalate ",\n" (entries.map (margin (indent + 2) ++ ·)) ++ "\n" ++
      margin indent ++ closing

mutual

/-- The text with every item and member on a line of its own. -/
def prettyAt (indent : Nat) : Json → String
  | .list items => block "[" "]" indent (prettyItems (indent + 2) items)
  | .object members => block "\x7b" "\x7d" indent (prettyMembers (indent + 2) members)
  | v => compact v

def prettyItems (indent : Nat) : List Json → List String
  | [] => []
  | v :: rest => prettyAt indent v :: prettyItems indent rest

def prettyMembers (indent : Nat) : List (String × Json) → List String
  | [] => []
  | (n, v) :: rest => (quote n ++ ": " ++ prettyAt indent v) :: prettyMembers indent rest

end

def pretty (v : Json) : String :=
  prettyAt 0 v

end IncludeRules.Json
