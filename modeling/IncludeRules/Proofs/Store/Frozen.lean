import IncludeRules.Proofs.Scan.Reachable
import IncludeRules.Proofs.Store.Entries
import IncludeRules.Proofs.Store.Updates

/-! Scripts that write nothing, on a store and on the same store when nothing can be written. -/

namespace IncludeRules.Store

open Scan (frozen)

variable {α : Type} {s t : Store} {p : Path}

theorem answer_frozen {c : Call} (h : c.isWrite = false) (s : Store) :
    Store.fileSystem.answer c s = ((frozen s).answer c, s) := by
  obtain ⟨answer, t, ha, hstore⟩ := Store.answer_cases c s
  rw [hstore h] at ha
  simp only [frozen, ha]

theorem frozen_read : (frozen s).answer (.read p) = .ok (s.read p) := rfl

theorem frozen_answers (s : Store) (c : Call) : ∃ answer, (frozen s).answer c = .ok answer := by
  obtain ⟨answer, t, hanswer, -⟩ := Store.answer_cases c s
  exact ⟨answer, congrArg Prod.fst hanswer⟩

/-- Without writes a store answers like a file system without state. -/
theorem course_frozen {Q : Notice → Prop} {script : Script α}
    (h : script.Within (·.isWrite = false) Q) (s : Store) :
    script.course Store.fileSystem s = (script.course (frozen s), s) := by
  induction script with
  | done | fail => rfl
  | call c next ih =>
    rw [Script.course_call, Script.course_call_id, answer_frozen h.1]
    rcases (frozen s).answer c with crash | answer
    · rfl
    · dsimp only
      rw [ih answer (h.2 answer)]
  | tell n next ih =>
    rw [Script.course_tell, ih h.2]
    rfl

theorem run_frozen {Q : Notice → Prop} {script : Script α}
    (h : script.Within (·.isWrite = false) Q) (s : Store) :
    script.run Store.fileSystem s = (script.run (frozen s), s) := by
  rw [Script.run_of_course (course_frozen h s), Script.run_eq_course]
  rfl

/-- What is read depends on the contents alone, and what exists on the locations alone. -/
theorem frozen_read_congr (h : t.octets? p = s.octets? p) :
    (frozen t).answer (.read p) = (frozen s).answer (.read p) := by
  change Except.ok (t.read p) = Except.ok (s.read p)
  rw [Store.read, Store.read, h]

theorem frozen_present_congr (h : ∀ l, l ∈ t.locations ↔ l ∈ s.locations) (p : Path) :
    (frozen t).answer (.present p) = (frozen s).answer (.present p) :=
  congrArg Except.ok (present_congr fun l _ => h l)

end IncludeRules.Store
