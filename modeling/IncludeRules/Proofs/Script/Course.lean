import IncludeRules.Script.FileSystem

/-! Courses: what happens while a script runs, call by call and notice by notice. -/

namespace IncludeRules

/-- One thing that happens: a call that is answered, or a notice that is told. -/
inductive Event where
  | asked (c : Call) (answer : c.Answer)
  | told (n : Notice)

def Event.notice? : Event → Option Notice
  | .asked .. => none
  | .told n => some n

/-- What happened in a run, in order, and how the run ended. -/
structure Course (α : Type) where
  events : List Event
  ending : Ending α

variable {m : Type → Type} [Monad m] {σ α β γ : Type}

/-- The visible part of a course. -/
def Course.run (r : Course α) : Run α :=
  ⟨r.events.filterMap Event.notice?, r.ending⟩

/-- A course with things that happened before it. -/
def Course.after (events : List Event) (r : Course α) : Course α :=
  { r with events := events ++ r.events }

/-- How a course goes on with what follows it. -/
def Course.andThen (next : α → m (Course β)) (r : Course α) : m (Course β) :=
  match r.ending with
  | .done a => .after r.events <$> next a
  | .failed e => pure ⟨r.events, .failed e⟩
  | .crashed c => pure ⟨r.events, .crashed c⟩

def Script.course (fs : FileSystem m) : Script α → m (Course α)
  | .done a => pure ⟨[], .done a⟩
  | .fail e => pure ⟨[], .failed e⟩
  | .call c next => do
    match ← fs.answer c with
    | .ok answer => .after [.asked c answer] <$> (next answer).course fs
    | .error crash => pure ⟨[], .crashed crash⟩
  | .tell n next => .after [.told n] <$> next.course fs

def Ending.done? : Ending α → Option α
  | .done a => some a
  | .failed _ | .crashed _ => none

def Ending.mapFailure (f : Failure → Failure) : Ending α → Ending α
  | .done a => .done a
  | .failed e => .failed (f e)
  | .crashed c => .crashed c

def Course.mapFailure (f : Failure → Failure) (r : Course α) : Course α :=
  { r with ending := r.ending.mapFailure f }

theorem Ending.eq_done {e : Ending α} {a : α} (h : e.done? = some a) : e = .done a := by
  cases e with
  | done b =>
    cases h
    rfl
  | failed | crashed => cases h

@[simp] theorem Course.after_nil : (Course.after [] : Course α → Course α) = id := rfl

theorem Course.after_comp_after (xs ys : List Event) :
    (Course.after xs ∘ Course.after ys : Course α → Course α) = Course.after (xs ++ ys) := by
  funext r
  simp [after]

theorem Course.andThen_after [LawfulMonad m] (next : α → m (Course β)) (xs : List Event)
    (r : Course α) : (r.after xs).andThen next = after xs <$> r.andThen next := by
  obtain ⟨events, ending⟩ := r
  cases ending with
  | done a =>
    simp only [after, andThen]
    rw [← comp_map, after_comp_after]
  | failed | crashed => simp [after, andThen]

theorem Course.run_comp_tell (n : Notice) :
    (Course.run ∘ Course.after [.told n] : Course α → Run α) =
      (fun r => { r with notices := n :: r.notices }) ∘ Course.run := rfl

namespace Script

variable {fs : FileSystem m}

@[simp] theorem done_bind (a : α) (f : α → Script β) : (.done a >>= f) = f a := rfl

@[simp] theorem fail_bind (e : Failure) (f : α → Script β) : (.fail e >>= f) = .fail e := rfl

@[simp] theorem call_bind (c : Call) (next : c.Answer → Script α) (f : α → Script β) :
    (.call c next >>= f) = .call c fun answer => next answer >>= f := rfl

@[simp] theorem tell_bind (n : Notice) (next : Script α) (f : α → Script β) :
    (.tell n next >>= f) = .tell n (next >>= f) := rfl

@[simp] theorem notify_bind (n : Notice) (f : Unit → Script α) :
    (notify n >>= f) = .tell n (f ()) := rfl

@[simp] theorem orFail_ok (g : String → Failure) (a : α) : orFail g (.ok a) = .done a := rfl

theorem bind_done (s : Script α) : (s >>= .done) = s := by
  induction s with
  | done | fail => rfl
  | call c next ih => simp only [call_bind, ih]
  | tell n next ih => simp only [tell_bind, ih]

theorem bind_assoc (s : Script α) (f : α → Script β) (g : β → Script γ) :
    s >>= f >>= g = s >>= fun a => f a >>= g := by
  induction s with
  | done | fail => rfl
  | call c next ih => simp only [call_bind, ih]
  | tell n next ih => simp only [tell_bind, ih]

instance : LawfulMonad Script :=
  .mk' Script bind_done (fun _ _ => rfl) bind_assoc

/-- A run is the visible part of its course. -/
theorem run_eq_course [LawfulMonad m] (s : Script α) : s.run fs = Course.run <$> s.course fs := by
  induction s with
  | done | fail => simp [run, course, Course.run]
  | call c next ih =>
    rw [run, course, map_bind]
    congr 1
    funext answer
    cases answer with
    | ok a =>
      dsimp only
      rw [ih, ← comp_map]
      rfl
    | error crash => simp [Course.run]
  | tell n next ih =>
    rw [run, course, ih, ← comp_map, Course.run_comp_tell, comp_map]
    exact bind_pure_comp _ _

theorem course_bind [LawfulMonad m] (s : Script α) (f : α → Script β) :
    (s >>= f).course fs = s.course fs >>= Course.andThen fun a => (f a).course fs := by
  induction s with
  | done a => simp [course, Course.andThen]
  | fail e => simp [course, Course.andThen]
  | call c next ih =>
    rw [call_bind, course, course, LawfulMonad.bind_assoc]
    congr 1
    funext answer
    cases answer with
    | ok a => simp [ih, Course.andThen_after]
    | error crash => simp [Course.andThen]
  | tell n next ih => simp [course, ih, Course.andThen_after]

theorem course_mapFailure [LawfulMonad m] (f : Failure → Failure) (s : Script α) :
    (s.mapFailure f).course fs = Course.mapFailure f <$> s.course fs := by
  induction s with
  | done | fail => simp [mapFailure, course, Course.mapFailure, Ending.mapFailure]
  | call c next ih =>
    rw [mapFailure, course, course, map_bind]
    congr 1
    funext answer
    cases answer with
    | ok a =>
      dsimp only
      rw [ih, ← comp_map, ← comp_map]
      rfl
    | error crash => simp [Course.mapFailure, Ending.mapFailure]
  | tell n next ih =>
    rw [mapFailure, course, course, ih, ← comp_map, ← comp_map]
    rfl

end Script

end IncludeRules
