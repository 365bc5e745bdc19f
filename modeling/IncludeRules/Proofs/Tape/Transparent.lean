import IncludeRules.Proofs.Store.Faulty
import IncludeRules.Proofs.Tape.Replay
import Mathlib.Data.List.Forall2

/-! Calls on a file system that records them: nobody notices, and nothing is left out. -/

namespace IncludeRules

variable {σ : Type} {c : Call} {a b : c.Answer} {output : Json}

/-- A call with its answer. -/
abbrev Answered : Type :=
  (c : Call) × c.Answer

/-- What comes of a call: an answer, unless the file system gives up on it. -/
abbrev Reply : Type :=
  (c : Call) × Except Crash c.Answer

def Reply.answered? : Reply → Option Answered
  | ⟨c, .ok a⟩ => some ⟨c, a⟩
  | ⟨_, .error _⟩ => none

def Answered.event (x : Answered) : Event :=
  .asked x.1 x.2

/-- Makes calls one after the other, whatever comes of those before. -/
def FileSystem.ask {m : Type → Type} [Monad m] (fs : FileSystem m) : List Call → m (List Reply)
  | [] => pure []
  | c :: later => do
    let answer ← fs.answer c
    let replies ← fs.ask later
    return ⟨c, answer⟩ :: replies

/-- The forms in which answers are kept: a refusal as its text, a value as itself, and a truth
value without anything around it. -/
inductive Tape.Kept : (c : Call) → c.Answer → Json → Prop where
  | refused {c : Call} {a : c.Answer} {cause : String} (h : c.refusal? cause = some a) :
    Kept c a (.object [("err", .text cause)])
  | text (p : Path) (text : String) :
    Kept (.readText p) (.ok text) (.object [("ok", .text text)])
  | octets (p : Path) (octets : Octets) :
    Kept (.read p) (.ok octets) (.object [("ok", .list (octets.map fun o => .int o.toNat))])
  | written (p : Path) (text : String) :
    Kept (.write p text) (.ok ()) (.object [("ok", .null)])
  | present (p : Path) (flag : Bool) : Kept (.present p) flag (.bool flag)
  | isDirectory (p : Path) (flag : Bool) : Kept (.isDirectory p) flag (.bool flag)
  | entries (p : Path) (names : List String) :
    Kept (.entries p) (.ok names) (.object [("ok", .list (names.map .text))])

/-- An interaction tells of the call that was made when there were `n` others, and of its answer. -/
structure Interaction.Tells (i : Interaction) (n : Nat) (x : Answered) : Prop where
  seq : i.seq = n
  port : i.port = "fs"
  method : i.method = x.1.method
  path : i.input.get? "path" = some (.text x.1.path.display)
  contents : ∀ p text, x.1 = .write p text → i.input.get? "contents" = some (.text text)
  output : Tape.Kept x.1 x.2 i.output

namespace Tape

theorem kept_outputOf (c : Call) (a : c.Answer) : Kept c a (outputOf c a) := by
  cases c with
  | readText p =>
    cases a with
    | ok text => exact .text p text
    | error cause => exact .refused rfl
  | read p =>
    cases a with
    | ok octets => exact .octets p octets
    | error cause => exact .refused rfl
  | write p text =>
    cases a with
    | ok => exact .written p text
    | error cause => exact .refused rfl
  | present p => exact .present p a
  | isDirectory p => exact .isDirectory p a
  | entries p =>
    cases a with
    | ok names => exact .entries p names
    | error cause => exact .refused rfl

theorem Kept.eq_outputOf (h : Kept c a output) : output = outputOf c a := by
  cases h with
  | refused h =>
    cases c with
    | readText | read | write | entries =>
      cases h
      rfl
    | present | isDirectory => cases h
  | text | octets | written | present | isDirectory | entries => rfl

/-- What is kept of an answer is enough to give the answer again. -/
theorem Kept.answer (h : Kept c a output) : Replay.answer c output = .ok a := by
  rw [h.eq_outputOf]
  exact answer_outputOf c a

theorem Kept.unique (ha : Kept c a output) (hb : Kept c b output) : a = b :=
  Except.ok.inj (ha.answer.symm.trans hb.answer)

theorem transcript_tells (answered : List Answered) (n : Nat) :
    List.Forall₂ (fun i x => i.Tells x.2 x.1) (transcript n (answered.map Answered.event))
      (answered.zipIdx n) := by
  induction answered generalizing n with
  | nil => exact .nil
  | cons x later ih =>
    obtain ⟨c, a⟩ := x
    refine .cons ⟨rfl, rfl, rfl, ?_, ?_, kept_outputOf c a⟩ (ih (n + 1))
    · cases c <;> rfl
    · intro p text hc
      cases hc
      rfl

end Tape

/-- Recorded calls are answered, and change the state, as they are without a record. What is answered
goes into the log. -/
theorem ask_recording (fs : FileSystem (StateM σ)) (calls : List Call) (log : List Interaction)
    (s : σ) :
    fs.recording.ask calls log s =
      (((fs.ask calls s).1,
        log ++ Tape.transcript log.length
          (((fs.ask calls s).1.filterMap Reply.answered?).map Answered.event)),
        (fs.ask calls s).2) := by
  induction calls generalizing log s with
  | nil => exact congrArg (fun log => (([], log), s)) (List.append_nil log).symm
  | cons c later ih =>
    rw [FileSystem.ask, stateT_bind, recording_answer, FileSystem.ask, Script.stateM_bind]
    rcases fs.answer c s with ⟨crash | a, t⟩
    · dsimp only
      rw [stateT_bind, ih, Script.stateM_bind]
      rfl
    · dsimp only
      rw [stateT_bind, ih, Script.stateM_bind]
      simp only [Tape.recordCall, Tape.record, List.length_append, List.length_singleton,
        List.append_assoc]
      rfl

theorem ask_calls (fs : FileSystem (StateM σ)) (calls : List Call) (s : σ) :
    (fs.ask calls s).1.map (·.1) = calls := by
  induction calls generalizing s with
  | nil => rfl
  | cons c later ih => exact congrArg (c :: ·) (ih (fs.answer c s).2)

/-- Replies that are all answers are answers to the same calls. -/
theorem answered_calls {replies : List Reply} (h : ∀ r ∈ replies, r.answered?.isSome) :
    (replies.filterMap Reply.answered?).map (·.1) = replies.map (·.1) := by
  induction replies with
  | nil => rfl
  | cons r later ih =>
    have ih := ih fun r hr => h r (List.mem_cons_of_mem _ hr)
    obtain ⟨c, crash | a⟩ := r
    · cases h _ List.mem_cons_self
    · exact congrArg (c :: ·) ih

/-- Whatever calls are made on whatever file system, a record in front of it is transparent: each call
comes to the same, and the file system ends in the same state. The record is complete: its
interactions tell of the answered calls, one of each, in order and numbered from zero. Calls on which
the file system itself gives up are the only ones that it leaves out. What it keeps of an answer
determines the answer. -/
theorem recording_transparent (fs : FileSystem (StateM σ)) (calls : List Call) (s : σ) :
    let alone := fs.ask calls s
    let recorded := fs.recording.ask calls [] s
    let answered := alone.1.filterMap Reply.answered?
    recorded.1.1 = alone.1 ∧ recorded.2 = alone.2 ∧ alone.1.map (·.1) = calls ∧
    List.Forall₂ (fun i x => i.Tells x.2 x.1) recorded.1.2 answered.zipIdx ∧
    ((∀ r ∈ alone.1, r.answered?.isSome) → answered.map (·.1) = calls) ∧
    ∀ (c : Call) (a b : c.Answer) (output : Json),
      Tape.Kept c a output → Tape.Kept c b output → a = b := by
  intro alone recorded answered
  have hrecorded : recorded = _ := ask_recording fs calls [] s
  have hcalls : alone.1.map (·.1) = calls := ask_calls fs calls s
  rw [hrecorded]
  refine ⟨rfl, rfl, hcalls, Tape.transcript_tells answered 0, fun h => ?_,
    fun _ _ _ _ => Tape.Kept.unique⟩
  exact (answered_calls h).trans hcalls

end IncludeRules
