import IncludeRules.Failure
import IncludeRules.Path.Basic

/-! Scripts: what a run asks of a file system, and what it does with the answers. -/

namespace IncludeRules

/-- A call on a file system. -/
inductive Call where
  | readText (path : Path)
  | read (path : Path)
  | write (path : Path) (text : String)
  | present (path : Path)
  | isDirectory (path : Path)
  | entries (path : Path)
  deriving DecidableEq

/-- What a call is answered by. Whoever refuses a call says why in a text. -/
abbrev Call.Answer : Call → Type
  | .readText _ => Except String String
  | .read _ => Except String Octets
  | .write _ _ => Except String Unit
  | .present _ => Bool
  | .isDirectory _ => Bool
  | .entries _ => Except String (List String)

def Call.path : Call → Path
  | .readText p | .read p | .write p _ | .present p | .isDirectory p | .entries p => p

/-- What a write did to a file. -/
inductive Outcome where
  | new
  | changed
  | unchanged
  deriving DecidableEq

def Outcome.name : Outcome → String
  | .new => "New"
  | .changed => "Changed"
  | .unchanged => "Unchanged"

/-- What a script tells while it runs. -/
inductive Notice where
  | scanned (source : String) (headers : Nat)
  | updated (output : Path) (outcome : Outcome)
  | printed (text : String)
  | saved (tape : Path)
  | unsaved (cause : String)
  deriving DecidableEq

/-- A script is finite: it ends after finitely many calls, whatever the answers are. -/
inductive Script (α : Type) : Type where
  | done (value : α)
  | fail (failure : Failure)
  | call (c : Call) (next : c.Answer → Script α)
  | tell (notice : Notice) (next : Script α)

namespace Script

variable {α β : Type}

def bind (s : Script α) (f : α → Script β) : Script β :=
  match s with
  | .done a => f a
  | .fail e => .fail e
  | .call c next => .call c fun answer => (next answer).bind f
  | .tell n next => .tell n (next.bind f)

instance : Monad Script where
  pure := .done
  bind := bind

def mapFailure (f : Failure → Failure) : Script α → Script α
  | .done a => .done a
  | .fail e => .fail (f e)
  | .call c next => .call c fun answer => (next answer).mapFailure f
  | .tell n next => .tell n (next.mapFailure f)

def notify (n : Notice) : Script Unit :=
  .tell n (.done ())

def ofExcept : Except Failure α → Script α
  | .ok a => .done a
  | .error e => .fail e

/-- Ends the script unless the call was answered. -/
def orFail (f : String → Failure) : Except String α → Script α
  | .ok a => .done a
  | .error cause => .fail (f cause)

def readText (path : Path) : Script (Except String String) :=
  .call (.readText path) .done

def read (path : Path) : Script (Except String Octets) :=
  .call (.read path) .done

def write (path : Path) (text : String) : Script (Except String Unit) :=
  .call (.write path text) .done

def present (path : Path) : Script Bool :=
  .call (.present path) .done

def isDirectory (path : Path) : Script Bool :=
  .call (.isDirectory path) .done

def entries (path : Path) : Script (Except String (List String)) :=
  .call (.entries path) .done

end Script

end IncludeRules
