import IncludeRules.Mismatch
import IncludeRules.Script.FileSystem
import IncludeRules.Tape.Basic

/-! File systems that answer from a tape. -/

namespace IncludeRules

/-- What is left of a tape. Calls of one kind are answered in their recorded order, however they
are mixed with calls of other kinds. -/
structure Replay where
  tape : String
  pending : List Interaction

namespace Replay

def ofTape (t : Tape) : Replay :=
  ⟨t.name, t.interactions.filter (·.port == filePort)⟩

/-- The first interaction of a method, and what remains without it. -/
def next? (method : String) : List Interaction → Option (Interaction × List Interaction)
  | [] => none
  | i :: rest =>
    if i.method = method then some (i, rest)
    else (next? method rest).map fun (found, left) => (found, i :: left)

/-- The output of the next call of a method. An interaction that was recorded for another path is
used up nevertheless; one without a path fits every path. -/
def take (r : Replay) (method : String) (path : Path) : Except Crash Json × Replay :=
  match next? method r.pending with
  | none => (.error (.exhausted r.tape method path.display), r)
  | some (i, left) =>
    let r := { r with pending := left }
    match (i.input.get? "path").bind Json.text? with
    | some recorded =>
      if recorded = path.display then (.ok i.output, r)
      else (.error (.diverged r.tape i.seq method recorded path.display), r)
    | none => (.ok i.output, r)

/-- A value as it is named in a complaint. -/
def found : Json → Found
  | .null => .null
  | .bool b => .bool b
  | .int n => .int n
  | .float x => .float x.dataText
  | .text s => .text s
  | .list _ => .list
  | .object _ => .object

def textOf : Json → Except Mismatch String
  | .text s => .ok s
  | v => .error (.kind (found v) "a string")

def unitOf : Json → Except Mismatch Unit
  | .null => .ok ()
  | v => .error (.kind (found v) "unit")

def octetOf : Json → Except Mismatch UInt8
  | .int n => if 0 ≤ n ∧ n < 256 then .ok (.ofNat n.toNat) else .error (.bounds (.int n) "u8")
  | v => .error (.kind (found v) "u8")

def listOf {α : Type} (item : Json → Except Mismatch α) : Json → Except Mismatch (List α)
  | .list items => items.mapM item
  | v => .error (.kind (found v) "a sequence")

/-- The answer that an output stands for. A refusal without a text has a standard one. -/
def answerOf {α : Type} (c : Call) (decode : Json → Except Mismatch α) (output : Json) :
    Except String α :=
  match output.get? "err" with
  | some cause => .error (cause.text?.getD "unknown error")
  | none =>
    (decode ((output.get? "ok").getD .null)).mapError fun m =>
      "fs::" ++ c.method ++ " " ++ c.path.display ++ ": bad recorded output: " ++ m.message "null"

def flagOf (c : Call) (output : Json) : Except Crash Bool :=
  match output.bool? with
  | some b => .ok b
  | none => .error (.notFlag c.method output)

def answer : (c : Call) → Json → Except Crash c.Answer
  | c@(.readText _), v => .ok (answerOf c textOf v)
  | c@(.read _), v => .ok (answerOf c (listOf octetOf) v)
  | c@(.write _ _), v => .ok (answerOf c unitOf v)
  | c@(.present _), v => flagOf c v
  | c@(.isDirectory _), v => flagOf c v
  | c@(.entries _), v => .ok (answerOf c (listOf textOf) v)

end Replay

/-- Answers every call from what is left of a tape. -/
def FileSystem.replaying : FileSystem (StateM Replay) where
  answer c := fun r =>
    match r.take c.method c.path with
    | (.ok output, r) => (Replay.answer c output, r)
    | (.error crash, r) => (.error crash, r)

end IncludeRules
