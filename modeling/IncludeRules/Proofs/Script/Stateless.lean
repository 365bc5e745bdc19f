import IncludeRules.Proofs.Script.Course

/-! Runs on file systems without state, which answer a call alike whenever it is made. -/

namespace IncludeRules

def Event.call? : Event → Option Call
  | .asked c _ => some c
  | .told _ => none

/-- The calls that were answered, in order. -/
def Course.calls {α : Type} (r : Course α) : List Call :=
  r.events.filterMap Event.call?

/-- How a run goes on with what follows it. -/
def Run.andThen {α β : Type} (next : α → Run β) (r : Run α) : Run β :=
  match r.ending with
  | .done a => { next a with notices := r.notices ++ (next a).notices }
  | .failed e => ⟨r.notices, .failed e⟩
  | .crashed crash => ⟨r.notices, .crashed crash⟩

namespace Script

variable {fs gs : FileSystem Id} {α β : Type} {script : Script α} {f : α → Script β}
  {events : List Event}

theorem ending_call (c : Call) (next : c.Answer → Script α) :
    ((call c next).run fs).ending =
      match fs.answer c with
      | .ok answer => ((next answer).run fs).ending
      | .error crash => .crashed crash := by
  simp only [run]
  change Run.ending (match fs.answer c with | .ok answer => _ | .error crash => _) = _
  rcases fs.answer c with crash | answer <;> rfl

/-- What follows a script is reached only when the script is done. -/
theorem bind_ending_done {script : Script α} {f : α → Script β} {b : β} :
    ((script >>= f).run fs).ending = .done b ↔
      ∃ a, (script.run fs).ending = .done a ∧ ((f a).run fs).ending = .done b := by
  induction script with
  | done a =>
    constructor
    · exact fun h => ⟨a, rfl, h⟩
    · rintro ⟨a', ha, h⟩
      cases ha
      exact h
  | fail e =>
    constructor
    · intro h
      cases h
    · rintro ⟨a, ha, h⟩
      cases ha
  | call c next ih =>
    rw [call_bind, ending_call, ending_call]
    rcases fs.answer c with crash | answer
    · simp
    · exact ih answer
  | tell n next ih => exact ih

/-- A run ends in a crash only where a call is not answered. -/
theorem not_crashed (h : ∀ c, ∃ answer, fs.answer c = .ok answer) (script : Script α)
    (crash : Crash) : (script.run fs).ending ≠ .crashed crash := by
  induction script with
  | done | fail => exact fun h => nomatch h
  | call c next ih =>
    obtain ⟨answer, ha⟩ := h c
    rw [ending_call, ha]
    exact ih answer
  | tell n next ih => exact ih

theorem ending_course (script : Script α) :
    (script.run fs).ending = (script.course fs).ending := by
  rw [run_eq_course]
  rfl

theorem course_call_id (c : Call) (next : c.Answer → Script α) :
    (call c next).course fs =
      match fs.answer c with
      | .ok answer => ((next answer).course fs).after [.asked c answer]
      | .error crash => ⟨[], .crashed crash⟩ := by
  rw [course]
  change (match fs.answer c with | .ok answer => _ | .error crash => _ : Course α) = _
  rcases fs.answer c with crash | answer <;> rfl

theorem run_call_id (c : Call) (next : c.Answer → Script α) :
    (call c next).run fs =
      match fs.answer c with
      | .ok answer => (next answer).run fs
      | .error crash => ⟨[], .crashed crash⟩ := by
  rw [run]
  change (match fs.answer c with | .ok answer => _ | .error crash => _ : Run α) = _
  rcases fs.answer c with crash | answer <;> rfl

theorem run_tell_id (n : Notice) (next : Script α) :
    (tell n next).run fs = ({ (next.run fs : Run α) with
      notices := n :: (next.run fs : Run α).notices } : Run α) := rfl

theorem run_bind_id (script : Script α) (f : α → Script β) :
    (script >>= f).run fs =
      (script.run fs : Run α).andThen fun a => ((f a).run fs : Run β) := by
  induction script with
  | done a => rfl
  | fail e => rfl
  | call c next ih =>
    rw [call_bind, run_call_id, run_call_id]
    rcases fs.answer c with crash | answer
    · rfl
    · exact ih answer
  | tell n next ih =>
    rw [tell_bind, run_tell_id, run_tell_id, ih]
    rcases (next.run fs : Run α) with ⟨told, ending⟩
    cases ending with
    | done a => rfl
    | failed e => rfl
    | crashed crash => rfl

/-- Scripts run alike whose parts run alike. -/
theorem run_bind_congr {other : Script α} {g : α → Script β}
    (h : (script.run fs : Run α) = other.run fs)
    (hnext : ∀ a, ((f a).run fs : Run β) = (g a).run fs) :
    ((script >>= f).run fs : Run β) = (other >>= g).run fs := by
  have hfun : (fun a => ((f a).run fs : Run β)) = fun a => (g a).run fs := funext hnext
  rw [run_bind_id, run_bind_id, h, hfun]

theorem run_foldlM_congr {f g : β → α → Script β}
    (h : ∀ b a, ((f b a).run fs : Run β) = (g b a).run fs) (l : List α) (b : β) :
    ((l.foldlM f b).run fs : Run β) = (l.foldlM g b).run fs := by
  induction l generalizing b with
  | nil => rfl
  | cons a l ih =>
    rw [List.foldlM_cons, List.foldlM_cons]
    exact run_bind_congr (h b a) ih

theorem course_bind_of_done {a : α} (h : script.course fs = (⟨events, .done a⟩ : Course α)) :
    (script >>= f).course fs = ((f a).course fs).after events := by
  rw [course_bind]
  change (script.course fs : Course α).andThen (fun a => (f a).course fs) = _
  rw [h]
  rfl

theorem course_bind_of_failed {e : Failure}
    (h : script.course fs = (⟨events, .failed e⟩ : Course α)) :
    (script >>= f).course fs = (⟨events, .failed e⟩ : Course β) := by
  rw [course_bind]
  change (script.course fs : Course α).andThen (fun a => (f a).course fs) = _
  rw [h]
  rfl

theorem course_bind_of_crashed {crash : Crash}
    (h : script.course fs = (⟨events, .crashed crash⟩ : Course α)) :
    (script >>= f).course fs = (⟨events, .crashed crash⟩ : Course β) := by
  rw [course_bind]
  change (script.course fs : Course α).andThen (fun a => (f a).course fs) = _
  rw [h]
  rfl

/-- The calls of a script that is done are those of its parts. -/
theorem calls_bind_done {b : β} (h : ((script >>= f).course fs).ending = .done b) :
    ∃ a, (script.course fs).ending = .done a ∧ ((f a).course fs).ending = .done b ∧
      ((script >>= f).course fs).calls = (script.course fs).calls ++ ((f a).course fs).calls := by
  rw [course_bind] at h ⊢
  change ((script.course fs).andThen fun a => (f a).course fs : Course β).ending = _ at h
  change ∃ a, _ ∧ _ ∧ ((script.course fs).andThen fun a => (f a).course fs : Course β).calls = _
  rcases hc : (script.course fs : Course α) with ⟨events, ending⟩
  rw [hc] at h
  cases ending with
  | done a => exact ⟨a, rfl, h, List.filterMap_append⟩
  | failed e => cases h
  | crashed c => cases h

/-- A script takes the same course on all file systems that answer its calls alike. A call on which
it crashed is none of those that were answered, so the course must not end with one. -/
theorem course_congr (hsame : ∀ c ∈ (script.course fs).calls, gs.answer c = fs.answer c)
    (hcrash : ∀ crash, (script.course fs).ending ≠ .crashed crash) :
    script.course gs = script.course fs := by
  induction script with
  | done | fail => rfl
  | call c next ih =>
    rw [course_call_id] at hsame hcrash ⊢
    rw [course_call_id]
    rcases ha : fs.answer c with crash | answer
    · rw [ha] at hcrash
      exact absurd rfl (hcrash crash)
    · rw [ha] at hsame hcrash
      have hc : gs.answer c = .ok answer := (hsame c List.mem_cons_self).trans ha
      rw [hc]
      dsimp only
      rw [ih answer (fun c hc => hsame c (List.mem_cons_of_mem _ hc)) hcrash]
  | tell n next ih =>
    rw [course] at hsame hcrash ⊢
    exact congrArg (Course.after [.told n]) (ih hsame hcrash)

end Script

end IncludeRules
