import IncludeRules.Proofs.Script.Stateful

/-! Scripts that go on where others are given up because includes nest too deep. -/

namespace IncludeRules

variable {σ α β : Type}

/-- A run was not given up because includes nest too deep. -/
def Ending.Concluded (e : Ending α) : Prop :=
  ∀ file, e ≠ .failed (.nestedTooDeep file)

theorem Ending.concluded_of_done {e : Ending α} {a : α} (h : e = .done a) : e.Concluded := by
  intro file hfailed
  cases h.symm.trans hfailed

namespace Script

variable {s t u : Script α} {f g : α → Script β} {depth : Nat}

/-- The second script does what the first one does, and may go on where that one is given up. -/
inductive Deepens : Script α → Script α → Prop
  | givenUp (file : String) (t : Script α) : Deepens (.fail (.nestedTooDeep file)) t
  | done (a : α) : Deepens (.done a) (.done a)
  | fail (e : Failure) : Deepens (.fail e) (.fail e)
  | call (c : Call) {next next' : c.Answer → Script α}
    (h : ∀ answer, Deepens (next answer) (next' answer)) : Deepens (.call c next) (.call c next')
  | tell (n : Notice) {next next' : Script α} (h : Deepens next next') :
    Deepens (.tell n next) (.tell n next')

theorem Deepens.refl (s : Script α) : Deepens s s := by
  induction s with
  | done a => exact .done a
  | fail e => exact .fail e
  | call c next ih => exact .call c ih
  | tell n next ih => exact .tell n ih

theorem Deepens.trans (h : Deepens s t) (h' : Deepens t u) : Deepens s u := by
  induction h generalizing u with
  | givenUp file => exact .givenUp file u
  | done => exact h'
  | fail => exact h'
  | call c _ ih =>
    cases h' with
    | call _ hnext =>
      apply Deepens.call
      intro answer
      exact ih answer (hnext answer)
  | tell n _ ih =>
    cases h' with
    | tell _ hnext => exact .tell n (ih hnext)

theorem deepens_bind (h : Deepens s t) (hf : ∀ a, Deepens (f a) (g a)) :
    Deepens (s >>= f) (t >>= g) := by
  induction h with
  | givenUp file => exact .givenUp file _
  | done a => exact hf a
  | fail e => exact .fail e
  | call c _ ih => exact .call c ih
  | tell n _ ih => exact .tell n ih

theorem deepens_foldlM {f g : β → α → Script β} (hf : ∀ b a, Deepens (f b a) (g b a))
    (l : List α) (b : β) : Deepens (l.foldlM f b) (l.foldlM g b) := by
  induction l generalizing b with
  | nil => exact .refl _
  | cons a l ih =>
    rw [List.foldlM_cons, List.foldlM_cons]
    exact deepens_bind (hf b a) ih

/-- A script that is deepened takes the same course, unless it was given up. -/
theorem Deepens.course {fs : FileSystem (StateM σ)} (h : Deepens s t) {state : σ}
    (hended : (s.course fs state).1.ending.Concluded) :
    t.course fs state = s.course fs state := by
  induction h generalizing state with
  | givenUp file => exact absurd rfl (hended file)
  | done => rfl
  | fail => rfl
  | call c _ ih =>
    rw [course_call] at hended ⊢
    rw [course_call]
    rcases hanswer : fs.answer c state with ⟨crash | answer, state'⟩
    · rfl
    · rw [hanswer] at hended
      dsimp only
      rw [ih answer hended]
  | tell n _ ih =>
    rw [course_tell] at hended ⊢
    rw [course_tell, ih hended]

section

variable {fs : FileSystem (StateM σ)} {state state' : σ} {events : List Event} {a : α}

/-- What comes first was not given up where the whole was not, and neither was what comes after. -/
theorem concluded_first (h : ((s >>= f).course fs state).1.ending.Concluded) :
    (s.course fs state).1.ending.Concluded := by
  intro file hfirst
  rcases hcourse : s.course fs state with ⟨⟨events, ending⟩, state'⟩
  rw [hcourse] at hfirst
  cases hfirst
  rw [course_bind_failed hcourse] at h
  exact h file rfl

theorem concluded_next (h : ((s >>= f).course fs state).1.ending.Concluded)
    (hdone : s.course fs state = (⟨events, .done a⟩, state')) :
    ((f a).course fs state').1.ending.Concluded := by
  rw [course_bind_done hdone] at h
  exact h

/-- A script that is done comes to one result, so what is enough for that one is enough. -/
theorem exists_course_bind {ι : Type} {f : Nat → ι → α → Script β} {g : ι → α → Script β}
    (h : ∀ events a state', s.course fs state = (⟨events, .done a⟩, state') →
      ∃ n, ∀ i, (f n i a).course fs state' = (g i a).course fs state') :
    ∃ n, ∀ i, (s >>= f n i).course fs state = (s >>= g i).course fs state := by
  rcases hcourse : s.course fs state with ⟨⟨events, ending⟩, state'⟩
  have hother : (∀ a, ending ≠ .done a) →
      ∀ n i, (s >>= f n i).course fs state = (s >>= g i).course fs state := by
    intro hne n i
    apply course_bind_congr
    intro events' a state'' hdone
    cases hcourse.symm.trans hdone
    exact absurd rfl (hne a)
  cases ending with
  | done a =>
    obtain ⟨n, hn⟩ := h events a state' hcourse
    refine ⟨n, fun i => ?_⟩
    rw [course_bind_done hcourse, course_bind_done hcourse, hn i]
  | failed e => exact ⟨0, hother (fun _ h => nomatch h) 0⟩
  | crashed crash => exact ⟨0, hother (fun _ h => nomatch h) 0⟩

end

end Script

end IncludeRules
