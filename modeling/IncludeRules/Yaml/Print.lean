import IncludeRules.Json.Basic
import IncludeRules.Yaml.Style

/-! Values as YAML texts in block style. -/

namespace IncludeRules.Yaml

/-- The longest key, in octets, that stands on one line with its value. -/
def longestKey : Nat :=
  128

/-- Whether a key stands on one line with its value; any other is marked as a key. -/
def isShortKey (key : String) : Bool :=
  !key.toList.any isBreak && key.utf8ByteSize ≤ longestKey

/-- Entries of a block, each of which begins at a column; the first one is there already. -/
def atColumn (column : Nat) : List (List Char) → List Char
  | [] => []
  | [e] => e
  | e :: rest => e ++ margin column ++ atColumn column rest

/-- The value at the end of a line that belongs to a block at `indent`, if it fits there. -/
def onLine? (indent : Nat) : Json → Option (List Char)
  | .null => some "null\n".toList
  | .bool b => some ((if b then "true" else "false").toList ++ ['\n'])
  | .int n => some ((toString n).toList ++ ['\n'])
  | .float x => some (x.dataText.toList ++ ['\n'])
  | .text s => some (scalarText indent s)
  | .list [] => some "[]\n".toList
  | .object [] => some "\x7b\x7d\n".toList
  | .list _ | .object _ => none

mutual

/-- The items of a list whose dashes stand at a column. -/
def itemLines (column : Nat) : List Json → List (List Char)
  | [] => []
  | v :: rest => ('-' :: afterMark column v) :: itemLines column rest

/-- The members of an object whose keys start at a column. -/
def memberLines (column : Nat) : List (String × Json) → List (List Char)
  | [] => []
  | (key, v) :: rest =>
    let text :=
      if isShortKey key then (scalarText column key).dropLast ++ ':' :: afterKey column v
      else "? ".toList ++ scalarText column key ++ margin column ++ ':' :: afterMark column v
    text :: memberLines column rest

/-- A value after a mark at a column: its first line stands behind the mark. -/
def afterMark (column : Nat) (v : Json) : List Char :=
  ' ' :: match onLine? column v with
  | some text => text
  | none =>
    let column := column + blockStep
    match v with
    | .list items => atColumn column (itemLines column items)
    | .object members => atColumn column (memberLines column members)
    | _ => []

/-- A value after a key at a column. The dashes of a list stand below the key. -/
def afterKey (column : Nat) (v : Json) : List Char :=
  match onLine? column v with
  | some text => ' ' :: text
  | none =>
    match v with
    | .list items => '\n' :: margin column ++ atColumn column (itemLines column items)
    | .object members =>
      let column := column + blockStep
      '\n' :: margin column ++ atColumn column (memberLines column members)
    | _ => []

end

/-- The document that holds an object. -/
def document (members : List (String × Json)) : String :=
  .ofList (atColumn 0 (memberLines 0 members))

end IncludeRules.Yaml
