import IncludeRules.Proofs.Script.Stateful

/-! Scripts whose results have a property, whatever their calls are answered. -/

namespace IncludeRules.Script

variable {σ α β : Type} {P : α → Prop} {Q : β → Prop} {script : Script α}

/-- Every result that a script can come to has the property; a script that fails has none. -/
def Yields (P : α → Prop) : Script α → Prop
  | .done a => P a
  | .fail _ => True
  | .call _ next => ∀ answer, (next answer).Yields P
  | .tell _ next => next.Yields P

theorem yields_any (script : Script α) : script.Yields fun _ => True := by
  induction script with
  | done | fail => trivial
  | call c next ih => exact ih
  | tell n next ih => exact ih

theorem yields_bind {f : α → Script β} (h : script.Yields P) (hf : ∀ a, P a → (f a).Yields Q) :
    (script >>= f).Yields Q := by
  induction script with
  | done a => exact hf a h
  | fail => trivial
  | call c next ih =>
    intro answer
    exact ih answer (h answer)
  | tell n next ih => exact ih h

theorem yields_mapM {f : α → Script β} (hf : ∀ a, (f a).Yields Q) (l : List α) :
    (l.mapM f).Yields fun results => ∀ b ∈ results, Q b := by
  induction l with
  | nil =>
    intro b hb
    cases hb
  | cons a l ih =>
    rw [List.mapM_cons]
    apply yields_bind (hf a)
    intro b hb
    apply yields_bind ih
    intro results hresults
    exact List.forall_mem_cons.mpr ⟨hb, hresults⟩

theorem yields_foldlM {f : β → α → Script β} (hf : ∀ b a, Q b → (f b a).Yields Q) (l : List α)
    {b : β} (hb : Q b) : (l.foldlM f b).Yields Q := by
  induction l generalizing b with
  | nil => exact hb
  | cons a l ih =>
    rw [List.foldlM_cons]
    exact yields_bind (hf b a hb) fun b' hb' => ih hb'

/-- What a run is done with is one of the results that the script can come to. -/
theorem Yields.of_run_done {fs : FileSystem (StateM σ)} {s : σ} {a : α} (h : script.Yields P)
    (hrun : (script.run fs s).1.ending = .done a) : P a := by
  induction script generalizing s with
  | done b =>
    cases hrun
    exact h
  | fail e => cases hrun
  | call c next ih =>
    obtain ⟨answer, t, -, hnext⟩ := run_call_done hrun
    exact ih answer (h answer) hnext
  | tell n next ih => exact ih h hrun

end IncludeRules.Script
