import IncludeRules.Proofs.Scan.Depth

/-! Scans that keep what is pending on a stack of their own, instead of one call inside another. -/

namespace IncludeRules.Scan

open Script

/-- A scan between two names: the paths found so far and, for each file that is being scanned, the
names of it that are still pending. The file that was opened last comes first. -/
structure Pending where
  found : List String
  frames : List (List String)
  deriving DecidableEq

/-- Takes the next name of the file that was opened last. What the name stands for is found and
opened, unless it was found before. A file that has no more names is closed. -/
def Pending.advance (search : Search) (p : Pending) : Script Pending :=
  match p.frames with
  | [] => return p
  | [] :: frames => return ⟨p.found, frames⟩
  | (name :: names) :: frames => do
    match ← resolve (search.renamed name) search.directories with
    | none => return ⟨p.found, names :: frames⟩
    | some path =>
      if path ∈ p.found then return ⟨p.found, names :: frames⟩
      else
        let inner ← namesIn path
        return ⟨p.found ++ [path], inner :: names :: frames⟩

/-- Advances until nothing is pending. A scan that is not at its end after so many steps is given
up. -/
def Pending.finish (search : Search) (file : String) : Nat → Pending → Script (List String)
  | 0, p => if p.frames = [] then return p.found else .fail (.nestedTooDeep file)
  | steps + 1, p =>
    if p.frames = [] then return p.found
    else do
      let next ← p.advance search
      finish search file steps next

/-- The headers that `file` reaches, by a loop over the names that are pending. -/
def headersByStack (search : Search) (steps : Nat) (file : String) : Script (List String) := do
  let names ← namesIn file
  Pending.finish search file steps ⟨[], [names]⟩

/-- What is left of a scan when it goes on recursively: the pending names, file by file. -/
def Pending.resume (search : Search) (depth : Nat) (p : Pending) : Script (List String) :=
  p.frames.foldlM (fun found names => names.foldlM (scanName search depth) found) p.found

variable {σ : Type} {fs : FileSystem (StateM σ)} {state : σ} {search : Search}
  {file path name : String} {names found : List String} {frames : List (List String)}
  {depth : Nat}

theorem finish_done (search : Search) (file : String) (steps : Nat) (found : List String) :
    Pending.finish search file steps ⟨found, []⟩ = .done found := by
  cases steps with
  | zero => rfl
  | succ steps => rfl

theorem resume_close (search : Search) (depth : Nat) (found : List String)
    (frames : List (List String)) :
    Pending.resume search depth ⟨found, [] :: frames⟩ =
      Pending.resume search depth ⟨found, frames⟩ := rfl

theorem resume_name (search : Search) (depth : Nat) (found names : List String) (name : String)
    (frames : List (List String)) :
    Pending.resume search depth ⟨found, (name :: names) :: frames⟩ =
      scanName search depth found name >>= fun mid =>
        Pending.resume search depth ⟨mid, names :: frames⟩ := by
  simp only [Pending.resume, List.foldlM_cons, Script.bind_assoc]

theorem resume_file (search : Search) (depth : Nat) (names : List String) :
    Pending.resume search depth ⟨[], [names]⟩ = names.foldlM (scanName search depth) [] := by
  simp only [Pending.resume, List.foldlM_cons, List.foldlM_nil, bind_pure]

theorem resume_deepens (search : Search) (depth : Nat) (p : Pending) :
    Deepens (p.resume search depth) (p.resume search (depth + 1)) := by
  have hvisit : ∀ path found, Deepens (visit search depth path found)
      (visit search (depth + 1) path found) := by
    intro path found
    exact visit_deepens search (Nat.le_succ depth) path found
  apply deepens_foldlM
  intro found names
  exact deepens_foldlM (scanName_deepens hvisit) names found

/-- A step of the loop, and then recursion, is recursion that may nest one level deeper. -/
theorem advance_resume_deepens (search : Search) (depth : Nat) (p : Pending) :
    Deepens (p.advance search >>= Pending.resume search depth) (p.resume search (depth + 1)) := by
  obtain ⟨found, frames⟩ := p
  match frames with
  | [] => exact .refl _
  | [] :: frames =>
    rw [resume_close]
    exact resume_deepens search depth ⟨found, frames⟩
  | (name :: names) :: frames =>
    rw [resume_name, scanName, Script.bind_assoc, Pending.advance]
    dsimp only
    rw [Script.bind_assoc]
    apply deepens_bind (.refl _)
    intro target
    cases target with
    | none => exact resume_deepens search depth ⟨found, names :: frames⟩
    | some path =>
      by_cases hpath : path ∈ found
      · simp only [hpath, if_true]
        exact resume_deepens search depth ⟨found, names :: frames⟩
      · -- The file is opened: its names are pending here, and scanned by a call there.
        simp only [hpath, if_false]
        rw [visit_succ, Script.bind_assoc, Script.bind_assoc]
        apply deepens_bind (.refl _)
        intro inner
        change Deepens (Pending.resume search depth ⟨found ++ [path], inner :: names :: frames⟩) _
        apply deepens_bind (.refl _)
        intro mid
        exact resume_deepens search depth ⟨mid, names :: frames⟩

/-- The loop does what recursion does that may nest as deep as the loop takes steps. -/
theorem finish_deepens (search : Search) (file : String) (steps : Nat) (p : Pending) :
    Deepens (p.finish search file steps) (p.resume search steps) := by
  induction steps generalizing p with
  | zero =>
    obtain ⟨found, frames⟩ := p
    cases frames with
    | nil => exact .refl _
    | cons names frames => exact .givenUp file _
  | succ steps ih =>
    obtain ⟨found, frames⟩ := p
    cases frames with
    | nil => exact .refl _
    | cons names frames =>
      have hloop : Deepens (Pending.finish search file (steps + 1) ⟨found, names :: frames⟩)
          (Pending.advance search ⟨found, names :: frames⟩ >>= Pending.resume search steps) :=
        deepens_bind (.refl _) ih
      exact hloop.trans (advance_resume_deepens search steps ⟨found, names :: frames⟩)

theorem headersByStack_deepens (search : Search) (steps : Nat) (file : String) :
    Deepens (headersByStack search steps file) (visit search (steps + 1) file []) := by
  rw [visit_succ]
  apply deepens_bind (.refl (namesIn file))
  intro names
  rw [← resume_file]
  exact finish_deepens search file steps ⟨[], [names]⟩

/-- Within some steps the loop gets as far as a call does and is left with some frames, whatever it
does from there. -/
def Simulates (fs : FileSystem (StateM σ)) (state : σ) (search : Search) (file : String)
    (loop : Nat → Script (List String)) (call : Script (List String))
    (frames : List (List String)) : Prop :=
  ∃ steps, ∀ more, (loop (more + steps)).course fs state =
    (call >>= fun mid => Pending.finish search file more ⟨mid, frames⟩).course fs state

/-- The loop simulates all calls that nest at most so deep: it opens a file where the call does, and
is left with the frames that were there before. -/
def SimulatesVisits (fs : FileSystem (StateM σ)) (search : Search) (file : String) (depth : Nat) :
    Prop :=
  ∀ path found frames state, ((visit search depth path found).course fs state).1.ending.Concluded →
    Simulates fs state search file
      (fun n => namesIn path >>= fun inner => Pending.finish search file n ⟨found, inner :: frames⟩)
      (visit search depth path found) frames

theorem simulates_return {search : Search} {file : String} (found : List String)
    (frames : List (List String)) :
    Simulates fs state search file (fun n => Pending.finish search file n ⟨found, frames⟩)
      (return found) frames :=
  ⟨0, fun _ => rfl⟩

/-- A step of the loop that leaves something to do is one step more. -/
theorem simulates_advance {call : Script (List String)} {outer : List (List String)}
    (h : Simulates fs state search file
      (fun n => Pending.advance search ⟨found, names :: frames⟩ >>= Pending.finish search file n)
      call outer) :
    Simulates fs state search file
      (fun n => Pending.finish search file n ⟨found, names :: frames⟩) call outer := by
  obtain ⟨steps, hsteps⟩ := h
  exact ⟨steps + 1, hsteps⟩

theorem simulates_bind {α : Type} {script : Script α} {loop : α → Nat → Script (List String)}
    {call : α → Script (List String)}
    (h : ∀ events a state', script.course fs state = (⟨events, .done a⟩, state') →
      Simulates fs state' search file (loop a) (call a) frames) :
    Simulates fs state search file (fun n => script >>= fun a => loop a n) (script >>= call)
      frames := by
  have hcourse := exists_course_bind (f := fun steps more a => loop a (more + steps))
    (g := fun more a => call a >>= fun mid => Pending.finish search file more ⟨mid, frames⟩) h
  obtain ⟨steps, hsteps⟩ := hcourse
  refine ⟨steps, fun more => ?_⟩
  rw [Script.bind_assoc]
  exact hsteps more

/-- After a call that the loop simulates, the loop goes on with what is still pending. -/
theorem simulates_then {loop : Nat → Script (List String)} {first : Script (List String)}
    {next : List String → Script (List String)} {outer : List (List String)}
    (h : Simulates fs state search file loop first frames)
    (hnext : ∀ events mid state', first.course fs state = (⟨events, .done mid⟩, state') →
      Simulates fs state' search file (fun n => Pending.finish search file n ⟨mid, frames⟩)
        (next mid) outer) :
    Simulates fs state search file loop (first >>= next) outer := by
  obtain ⟨steps, hsteps⟩ := h
  obtain ⟨later, hlater⟩ := simulates_bind hnext
  refine ⟨later + steps, fun more => ?_⟩
  rw [← Nat.add_assoc, hsteps (more + later)]
  exact hlater more

/-- One name is looked for and, if it is new, opened. -/
theorem simulates_name (ih : SimulatesVisits fs search file depth)
    (h : ((scanName search depth found name).course fs state).1.ending.Concluded) :
    Simulates fs state search file
      (fun n => Pending.finish search file n ⟨found, (name :: names) :: frames⟩)
      (scanName search depth found name) (names :: frames) := by
  apply simulates_advance
  simp only [Pending.advance, Script.bind_assoc]
  apply simulates_bind
  intro events target state' hresolve
  have hnext := concluded_next h hresolve
  cases target with
  | none => exact simulates_return found (names :: frames)
  | some path =>
    by_cases hpath : path ∈ found
    · simp only [hpath, if_true]
      exact simulates_return found (names :: frames)
    · simp only [hpath, if_false, Script.bind_assoc] at hnext ⊢
      exact ih path (found ++ [path]) (names :: frames) state' hnext

theorem simulates_names (ih : SimulatesVisits fs search file depth)
    (names found : List String) (frames : List (List String)) (state : σ)
    (h : ((names.foldlM (scanName search depth) found).course fs state).1.ending.Concluded) :
    Simulates fs state search file
      (fun n => Pending.finish search file n ⟨found, names :: frames⟩)
      (names.foldlM (scanName search depth) found) frames := by
  induction names generalizing found state with
  | nil =>
    apply simulates_advance
    exact simulates_return found frames
  | cons name names ihn =>
    rw [List.foldlM_cons] at h ⊢
    apply simulates_then (simulates_name ih (concluded_first h))
    intro events mid state' hname
    have hnext := concluded_next h hname
    exact ihn mid state' hnext

/-- A file is opened and its names are done, as by a call for the file. -/
theorem simulates_visits (fs : FileSystem (StateM σ)) (search : Search) (file : String)
    (depth : Nat) : SimulatesVisits fs search file depth := by
  induction depth with
  | zero =>
    intro path found frames state h
    exact absurd rfl (h path)
  | succ depth ih =>
    intro path found frames state h
    rw [visit_succ] at h ⊢
    apply simulates_bind
    intro events names state' hnames
    exact simulates_names ih names found frames state' (concluded_next h hnames)

/-- A scan that was not given up is done by the loop with enough steps. -/
theorem exists_headersByStack
    (h : ((headersOf search file).course fs state).1.ending.Concluded) :
    ∃ enough, ∀ steps, enough ≤ steps →
      (headersByStack search steps file).course fs state =
        (headersOf search file).course fs state := by
  obtain ⟨enough, hloop⟩ := simulates_visits fs search file search.limit file [] [] state h
  refine ⟨enough, fun steps hsteps => ?_⟩
  obtain ⟨more, rfl⟩ : ∃ more, steps = more + enough := ⟨steps - enough, by omega⟩
  have hcourse := hloop more
  simp only [finish_done, Script.bind_done] at hcourse
  exact hcourse

theorem headersOf_of_headersByStack {steps limit : Nat}
    (h : ((headersByStack search steps file).course fs state).1.ending.Concluded)
    (hlimit : steps < limit) :
    (headersOf (search.within limit) file).course fs state =
      (headersByStack search steps file).course fs state := by
  rw [headersOf_within]
  have hdeepens := (headersByStack_deepens search steps file).trans
    (visit_deepens search hlimit file [])
  exact hdeepens.course h

/-- Recursion and a loop with an explicit stack find the same headers in the same order, and fail
alike: they make the same calls, whatever these are answered. A scan that comes to an end by
recursion does so by the loop, in some number of steps. One that comes to an end by the loop does so
by recursion, when includes may nest deeper than there are steps. -/
theorem headersOf_eq_headersByStack (fs : FileSystem (StateM σ)) (state : σ) (search : Search)
    (file : String) :
    (((headersOf search file).course fs state).1.ending.Concluded →
      ∃ enough, ∀ steps, enough ≤ steps →
        (headersByStack search steps file).course fs state =
          (headersOf search file).course fs state) ∧
    ∀ steps, ((headersByStack search steps file).course fs state).1.ending.Concluded →
      ∀ limit, steps < limit →
        (headersOf (search.within limit) file).course fs state =
          (headersByStack search steps file).course fs state :=
  ⟨exists_headersByStack, fun _ h _ hlimit => headersOf_of_headersByStack h hlimit⟩

/-- Eleven steps are enough for the circle: four files with seven names are opened and closed. -/
theorem headersOf_eq_headersByStack_circle :
    ((headersByStack circleSearch 11 "main.c").course Store.fileSystem circle).1.ending =
        .done ["inc/a.h", "inc/b.h", "main.c"] ∧
      (headersOf (circleSearch.within 12) "main.c").course Store.fileSystem circle =
        (headersByStack circleSearch 11 "main.c").course Store.fileSystem circle ∧
      ∃ enough, ∀ steps, enough ≤ steps →
        (headersByStack circleSearch steps "main.c").course Store.fileSystem circle =
          (headersOf circleSearch "main.c").course Store.fileSystem circle := by
  have hloop : ((headersByStack circleSearch 11 "main.c").course Store.fileSystem circle).1.ending =
      .done ["inc/a.h", "inc/b.h", "main.c"] := Ending.eq_done (by decide +kernel)
  have hcall : ((headersOf circleSearch "main.c").course Store.fileSystem circle).1.ending =
      .done ["inc/a.h", "inc/b.h", "main.c"] := Ending.eq_done (by decide +kernel)
  obtain ⟨hby, hof⟩ := headersOf_eq_headersByStack Store.fileSystem circle circleSearch "main.c"
  have hconcluded := Ending.concluded_of_done hloop
  exact ⟨hloop, hof 11 hconcluded 12 (by decide), hby (Ending.concluded_of_done hcall)⟩

end IncludeRules.Scan
