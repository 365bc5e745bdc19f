import IncludeRules.Script.FileSystem
import IncludeRules.Tape.Basic

/-! File systems that record every call. -/

namespace IncludeRules

namespace Tape

/-- The arguments of a call. -/
def inputOf (c : Call) : Json :=
  match c with
  | .write p text => .object [("contents", .text text), ("path", .text p.display)]
  | c => .object [("path", .text c.path.display)]

def octetsJson (b : Octets) : Json :=
  .list (b.map fun o => .int o.toNat)

def textsJson (names : List String) : Json :=
  .list (names.map .text)

/-- The answer to a call that may be refused. -/
def answerJson {α : Type} (encode : α → Json) : Except String α → Json
  | .ok a => .object [("ok", encode a)]
  | .error cause => .object [("err", .text cause)]

def outputOf : (c : Call) → c.Answer → Json
  | .readText _, a => answerJson .text a
  | .read _, a => answerJson octetsJson a
  | .write _ _, a => answerJson (fun _ => .null) a
  | .present _, a => .bool a
  | .isDirectory _, a => .bool a
  | .entries _, a => answerJson textsJson a

/-- Adds an interaction under the next number. -/
def record (log : List Interaction) (port method : String) (input output : Json) :
    List Interaction :=
  log ++ [⟨log.length, port, method, input, output⟩]

def recordCall (log : List Interaction) (c : Call) (answer : c.Answer) : List Interaction :=
  record log filePort c.method (inputOf c) (outputOf c answer)

end Tape

/-- Hands every call on and records it with its answer. -/
def FileSystem.recording {m : Type → Type} [Monad m] (fs : FileSystem m) :
    FileSystem (StateT (List Interaction) m) where
  answer c := fun log => do
    match ← fs.answer c with
    | .ok a => return (.ok a, Tape.recordCall log c a)
    | .error crash => return (.error crash, log)

end IncludeRules
