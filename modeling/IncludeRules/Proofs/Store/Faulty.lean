import IncludeRules.Proofs.Script.Within
import IncludeRules.Store

/-! Stores that refuse some calls. -/

namespace IncludeRules

def Call.isWrite : Call → Bool
  | .write .. => true
  | .readText _ | .read _ | .present _ | .isDirectory _ | .entries _ => false

/-- The answer that refuses a call with a text. A question for a truth value cannot be refused. -/
def Call.refusal? : (c : Call) → String → Option c.Answer
  | .readText _, cause | .read _, cause | .write _ _, cause | .entries _, cause =>
    some (.error cause)
  | .present _, _ | .isDirectory _, _ => none

/-- Behind refusals a call is answered as without them, or refused with no change of the state. -/
theorem refusing_answer {σ : Type} (refusals : List FileSystem.Refusal)
    (fs : FileSystem (StateM σ)) (c : Call) (s : σ) :
    (FileSystem.refusing refusals fs).answer c s = fs.answer c s ∨
      ∃ cause answer, c.refusal? cause = some answer ∧
        (FileSystem.refusing refusals fs).answer c s = (.ok answer, s) := by
  cases c with
  | readText p | read p | write p text | entries p =>
    simp only [FileSystem.refusing]
    generalize FileSystem.refusal? refusals _ p = r
    cases r with
    | none => exact Or.inl rfl
    | some cause => exact Or.inr ⟨cause, _, rfl, rfl⟩
  | present | isDirectory => exact Or.inl rfl

namespace Store

variable {α : Type} {s t : Store} {p : Path}

/-- A file system over stores that may refuse whichever calls it likes, where a call can be refused
at all. A refused call leaves the store alone; the store answers all others. -/
structure Faulty where
  fileSystem : FileSystem (StateM Store)
  answers : ∀ c s, fileSystem.answer c s = Store.fileSystem.answer c s ∨
    ∃ cause answer, c.refusal? cause = some answer ∧ fileSystem.answer c s = (.ok answer, s)

/-- A store answers every call in some way, and only a write changes it. -/
theorem answer_cases (c : Call) (s : Store) : ∃ answer t,
    Store.fileSystem.answer c s = (.ok answer, t) ∧ (c.isWrite = false → t = s) := by
  cases c with
  | write => exact ⟨_, _, rfl, fun h => nomatch h⟩
  | entries p =>
    simp only [Store.fileSystem]
    split <;> exact ⟨_, _, rfl, fun _ => rfl⟩
  | readText | read | present | isDirectory => exact ⟨_, _, rfl, fun _ => rfl⟩

theorem octets?_of_read {contents : Octets} (h : s.read p = .ok contents) :
    s.octets? p = some contents := by
  unfold Store.read at h
  split at h
  · next hp =>
    cases h
    exact hp
  · cases h

theorem octets?_of_read_error {cause : String} (h : s.read p = .error cause) :
    s.octets? p = none ∧ cause = p.display ++ ": no such file" := by
  unfold Store.read at h
  split at h
  · cases h
  · next hp =>
    cases h
    exact ⟨hp, rfl⟩

namespace Faulty

/-- The store that refuses nothing. -/
def reliable : Faulty where
  fileSystem := Store.fileSystem
  answers _ _ := Or.inl rfl

@[simp] theorem reliable_fileSystem : reliable.fileSystem = Store.fileSystem := rfl

/-- The store in front of which calls of some kinds on some files are refused. -/
def ofRefusals (refusals : List FileSystem.Refusal) : Faulty where
  fileSystem := .refusing refusals Store.fileSystem
  answers := refusing_answer refusals Store.fileSystem

variable (f : Faulty)

/-- No call goes without an answer, and still only a write can change the store. -/
theorem answer_cases (c : Call) (s : Store) : ∃ answer t,
    f.fileSystem.answer c s = (.ok answer, t) ∧ (c.isWrite = false → t = s) := by
  rcases f.answers c s with h | ⟨cause, answer, _, h⟩
  · rw [h]
    exact Store.answer_cases c s
  · exact ⟨answer, s, h, fun _ => rfl⟩

theorem answer_present (p : Path) (s : Store) :
    f.fileSystem.answer (.present p) s = (.ok (s.present p), s) := by
  rcases f.answers (.present p) s with h | ⟨_, _, hr, _⟩
  · exact h
  · cases hr

theorem answer_read (p : Path) (s : Store) : ∃ r,
    f.fileSystem.answer (.read p) s = (.ok r, s) ∧
      ∀ contents, r = .ok contents → s.octets? p = some contents := by
  rcases f.answers (.read p) s with h | ⟨cause, r, hr, h⟩
  · exact ⟨s.read p, h, fun _ => octets?_of_read⟩
  · cases hr
    exact ⟨_, h, fun _ hc => nomatch hc⟩

theorem answer_write (p : Path) (text : String) (s : Store) :
    f.fileSystem.answer (.write p text) s = (.ok (.ok ()), s.write p (.ofString text)) ∨
      ∃ cause, f.fileSystem.answer (.write p text) s = (.ok (.error cause), s) := by
  rcases f.answers (.write p text) s with h | ⟨cause, r, hr, h⟩
  · exact Or.inl h
  · cases hr
    exact Or.inr ⟨cause, h⟩

theorem answering : f.fileSystem.Answering := by
  intro c s
  obtain ⟨answer, t, h, _⟩ := f.answer_cases c s
  exact ⟨answer, congrArg Prod.fst h⟩

/-- A script is done or fails; it never crashes on such a file system. -/
theorem course_cases (script : Script α) (s : Store) : ∃ events t,
    (∃ a, script.course f.fileSystem s = (⟨events, .done a⟩, t)) ∨
      ∃ e, script.course f.fileSystem s = (⟨events, .failed e⟩, t) := by
  have hcrash := Script.course_not_crashed f.answering script s
  rcases h : script.course f.fileSystem s with ⟨⟨events, ending⟩, t⟩
  rw [h] at hcrash
  cases ending with
  | done a => exact ⟨events, t, Or.inl ⟨a, rfl⟩⟩
  | failed e => exact ⟨events, t, Or.inr ⟨e, rfl⟩⟩
  | crashed c => exact absurd rfl (hcrash c)

/-- A script that writes nothing leaves the store as it is. -/
theorem store_course {Q : Notice → Prop} {script : Script α}
    (h : script.Within (·.isWrite = false) Q) (s : Store) :
    (script.course f.fileSystem s).2 = s := by
  induction script generalizing s with
  | done | fail => rfl
  | call c next ih =>
    obtain ⟨answer, t, ha, hstore⟩ := f.answer_cases c s
    rw [Script.course_call, ha]
    exact (ih answer (h.2 answer) t).trans (hstore h.1)
  | tell n next ih => exact ih h.2 s

end Faulty

end Store

end IncludeRules
