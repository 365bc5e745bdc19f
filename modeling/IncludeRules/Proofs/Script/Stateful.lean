import IncludeRules.Proofs.Script.Course

/-! Courses on file systems whose answers depend on a state. -/

namespace IncludeRules

/-- No call is given up: each one is answered, be it with a refusal. -/
def FileSystem.Answering {σ : Type} (fs : FileSystem (StateM σ)) : Prop :=
  ∀ c s, ∃ answer, (fs.answer c s).1 = .ok answer

namespace Script

variable {σ α β : Type} {fs : FileSystem (StateM σ)} {script : Script α} {f : α → Script β}
  {events : List Event} {s t : σ}

/-- Two steps with one state are taken one after the other. -/
theorem stateM_bind (x : StateM σ α) (k : α → StateM σ β) (s : σ) :
    (x >>= k) s = k (x s).1 (x s).2 := rfl

theorem stateM_map (g : α → β) (x : StateM σ α) (s : σ) : (g <$> x) s = (g (x s).1, (x s).2) := rfl

theorem run_of_course {r : Course α} (h : script.course fs s = (r, t)) :
    script.run fs s = (r.run, t) := by
  rw [run_eq_course, stateM_map, h]

theorem course_call (c : Call) (next : c.Answer → Script α) (s : σ) :
    (call c next).course fs s =
      match fs.answer c s with
      | (.ok answer, t) =>
        (((next answer).course fs t).1.after [.asked c answer], ((next answer).course fs t).2)
      | (.error crash, t) => (⟨[], .crashed crash⟩, t) := by
  rw [course, stateM_bind]
  rcases fs.answer c s with ⟨crash | answer, t⟩ <;> rfl

theorem course_tell (n : Notice) (next : Script α) (s : σ) :
    (tell n next).course fs s = ((next.course fs s).1.after [.told n], (next.course fs s).2) := rfl

theorem course_bind_done {a : α} (h : script.course fs s = (⟨events, .done a⟩, t)) :
    (script >>= f).course fs s = (((f a).course fs t).1.after events, ((f a).course fs t).2) := by
  rw [course_bind, stateM_bind, h]
  rfl

theorem course_bind_failed {e : Failure} (h : script.course fs s = (⟨events, .failed e⟩, t)) :
    (script >>= f).course fs s = (⟨events, .failed e⟩, t) := by
  rw [course_bind, stateM_bind, h]
  rfl

/-- A script crashes only where a call is given up. -/
theorem course_not_crashed (h : fs.Answering) (script : Script α) (s : σ) (crash : Crash) :
    (script.course fs s).1.ending ≠ .crashed crash := by
  induction script generalizing s with
  | done | fail => exact fun h => nomatch h
  | call c next ih =>
    obtain ⟨answer, hanswer⟩ := h c s
    rw [course_call]
    rcases hc : fs.answer c s with ⟨r, t⟩
    rw [hc] at hanswer
    cases hanswer
    exact ih answer t
  | tell n next ih => exact ih s

/-- Only what a script is done with matters to what follows it. -/
theorem course_bind_congr {g : α → Script β}
    (h : ∀ events a t, script.course fs s = (⟨events, .done a⟩, t) →
      (f a).course fs t = (g a).course fs t) :
    (script >>= f).course fs s = (script >>= g).course fs s := by
  rcases hcourse : script.course fs s with ⟨⟨events, ending⟩, t⟩
  cases ending with
  | done a =>
    have hnext := h events a t hcourse
    rw [course_bind_done hcourse, course_bind_done hcourse, hnext]
  | failed e => rw [course_bind_failed hcourse, course_bind_failed hcourse]
  | crashed crash =>
    rw [course_bind, course_bind, stateM_bind, stateM_bind, hcourse]
    rfl

theorem course_mapFailure_of {ending : Ending α} (g : Failure → Failure)
    (h : script.course fs s = (⟨events, ending⟩, t)) :
    (script.mapFailure g).course fs s = (⟨events, ending.mapFailure g⟩, t) := by
  rw [course_mapFailure, stateM_map, h]
  rfl

theorem ending_run (script : Script α) (s : σ) :
    (script.run fs s).1.ending = (script.course fs s).1.ending := by
  rw [run_eq_course, stateM_map]
  rfl

/-- What follows a script is reached only where the script is done, with the state it left. -/
theorem run_bind_done {b : β} (h : ((script >>= f).run fs s).1.ending = .done b) :
    ∃ a t, (script.run fs s).1.ending = .done a ∧ (script.run fs s).2 = t ∧
      ((f a).run fs t).1.ending = .done b := by
  rw [ending_run, course_bind, stateM_bind] at h
  rw [ending_run, run_eq_course, stateM_map]
  rcases hc : script.course fs s with ⟨⟨events, ending⟩, t⟩
  rw [hc] at h
  cases ending with
  | done a => exact ⟨a, t, rfl, rfl, (ending_run _ _).trans h⟩
  | failed e => cases h
  | crashed c => cases h

/-- A call is answered where what follows it is done. -/
theorem run_call_done {c : Call} {next : c.Answer → Script α} {a : α}
    (h : ((call c next).run fs s).1.ending = .done a) :
    ∃ answer t, fs.answer c s = (.ok answer, t) ∧ ((next answer).run fs t).1.ending = .done a := by
  rw [ending_run, course_call] at h
  rcases hc : fs.answer c s with ⟨crash | answer, t⟩
  · rw [hc] at h
    cases h
  · rw [hc] at h
    exact ⟨answer, t, rfl, (ending_run _ _).trans h⟩

end Script

end IncludeRules
