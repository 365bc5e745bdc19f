import IncludeRules.Proofs.Script.Stateful

/-! Scripts that keep to some calls and notices whatever they are answered. -/

namespace IncludeRules

variable {σ α β : Type} {P : Call → Prop} {Q : Notice → Prop}

/-- A script that makes only some calls and tells only some notices. -/
def Script.Within (P : Call → Prop) (Q : Notice → Prop) : Script α → Prop
  | .done _ | .fail _ => True
  | .call c next => P c ∧ ∀ answer, (next answer).Within P Q
  | .tell n next => Q n ∧ next.Within P Q

def Event.Within (P : Call → Prop) (Q : Notice → Prop) : Event → Prop
  | .asked c _ => P c
  | .told n => Q n

namespace Script

@[simp] theorem within_done (a : α) : (Script.done a).Within P Q := trivial

@[simp] theorem within_fail (e : Failure) : (Script.fail e : Script α).Within P Q := trivial

theorem within_bind {script : Script α} {f : α → Script β} (h : script.Within P Q)
    (hf : ∀ a, (f a).Within P Q) : (script >>= f).Within P Q := by
  induction script with
  | done a => exact hf a
  | fail => trivial
  | call c next ih => exact ⟨h.1, fun answer => ih answer (h.2 answer)⟩
  | tell n next ih => exact ⟨h.1, ih h.2⟩

theorem within_ofExcept (r : Except Failure α) : (ofExcept r).Within P Q := by
  cases r <;> trivial

theorem within_orFail (g : String → Failure) (r : Except String α) :
    (orFail g r).Within P Q := by
  cases r <;> trivial

theorem within_mapM {f : α → Script β} (hf : ∀ a, (f a).Within P Q) (l : List α) :
    (l.mapM f).Within P Q := by
  induction l with
  | nil => trivial
  | cons a l ih =>
    rw [List.mapM_cons]
    exact within_bind (hf a) fun b => within_bind ih fun bs => within_done _

theorem within_foldlM {f : β → α → Script β} (hf : ∀ b a, (f b a).Within P Q) (l : List α)
    (b : β) : (l.foldlM f b).Within P Q := by
  induction l generalizing b with
  | nil => trivial
  | cons a l ih =>
    rw [List.foldlM_cons]
    exact within_bind (hf b a) ih

/-- All that happens in a course of such a script is of that kind. -/
theorem within_events {fs : FileSystem (StateM σ)} {script : Script α} (h : script.Within P Q)
    (s : σ) : ∀ e ∈ (script.course fs s).1.events, e.Within P Q := by
  induction script generalizing s with
  | done | fail => exact fun _ he => nomatch he
  | call c next ih =>
    rw [course_call]
    rcases fs.answer c s with ⟨crash | answer, t⟩
    · exact fun _ he => nomatch he
    · intro e he
      rcases List.mem_cons.mp he with rfl | he
      · exact h.1
      · exact ih answer (h.2 answer) t e he
  | tell n next ih =>
    intro e he
    rcases List.mem_cons.mp he with rfl | he
    · exact h.1
    · exact ih h.2 s e he

end Script

end IncludeRules
