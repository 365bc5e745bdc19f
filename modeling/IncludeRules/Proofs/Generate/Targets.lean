import IncludeRules.Proofs.Scan.Looks

/-! The targets of a run, generated one after the other on a store. -/

namespace IncludeRules

/-- What is written for a target with some rules. -/
def Target.fragment (t : Target) (rules : List Rule) : String :=
  Rule.fragment rules t.headerComment

/-- The targets in order, each told of as soon as it is done. -/
def generateEach (c : Config) (targets : List Target) : Script Unit :=
  targets.forM fun t => do
    let outcome ← (generateTarget c t).mapFailure (.inTarget t.name)
    Script.notify (.updated t.outputPath outcome)

theorem generate_eq (c : Config) (names : List String) :
    generate c names = Script.ofExcept (c.select names) >>= generateEach c := rfl

/-- One target is generated: it is scanned to the end without any write, and then its output is
updated, which writes the output once unless it holds its text already. -/
inductive Generated (fs : FileSystem (StateM Store)) (c : Config) (s : Store) (t : Target) :
    Outcome → List Event → Store → Prop where
  | intro {rules : List Rule} {scan rest : List Event} {o : Outcome} {s' : Store}
    (ran : (generateTarget c t).course fs s = (⟨scan ++ rest, .done o⟩, s'))
    (scanned : (dependencies c t).course fs s = (⟨scan, .done rules⟩, s))
    (silent : Silent scan)
    (updated : s.Updates t.outputPath (.ofString (t.fragment rules)) o s')
    (reports : rest.filterMap Event.report? = [])
    (writes : rest.filterMap Event.write? = o.writes t.outputPath (t.fragment rules)) :
    Generated fs c s t o (scan ++ rest) s'

/-- Targets are generated one after the other, and each is reported right after its own events. -/
inductive GeneratedAll (fs : FileSystem (StateM Store)) (c : Config) :
    Store → List (Target × Outcome) → List Event → Store → Prop where
  | nil (s : Store) : GeneratedAll fs c s [] [] s
  | cons {s mid s' : Store} {t : Target} {o : Outcome} {events more : List Event}
    {later : List (Target × Outcome)} (head : Generated fs c s t o events mid)
    (tail : GeneratedAll fs c mid later more s') :
    GeneratedAll fs c s ((t, o) :: later) (events ++ .told (.updated t.outputPath o) :: more) s'

variable {fs : FileSystem (StateM Store)} {c : Config} {s s' : Store} {t : Target} {o : Outcome}
  {events : List Event} {done : List (Target × Outcome)}

theorem Generated.course (h : Generated fs c s t o events s') :
    (generateTarget c t).course fs s = (⟨events, .done o⟩, s') := by
  cases h with
  | intro ran => exact ran

theorem Generated.reports (h : Generated fs c s t o events s') :
    events.filterMap Event.report? = [] := by
  cases h with
  | intro _ _ silent _ reports =>
    rw [List.filterMap_append, silent.reports, reports, List.nil_append]

/-- The reports of targets that were generated are about these targets. -/
theorem GeneratedAll.reports (h : GeneratedAll fs c s done events s') :
    events.filterMap Event.report? = done.map fun d => (d.1.outputPath, d.2) := by
  induction h with
  | nil => rfl
  | cons head _ ih =>
    rw [List.filterMap_append, head.reports, List.nil_append, List.map_cons, ← ih]
    rfl

/-- A target whose output is elsewhere leaves a location alone. -/
theorem Generated.lookup_other {l : Location} (h : Generated fs c s t o events s')
    (hne : l ≠ t.outputPath.location) : s'.files.lookup l = s.files.lookup l := by
  cases h with
  | intro _ _ _ updated => exact updated.lookup_other hne

theorem GeneratedAll.lookup_other {l : Location} (h : GeneratedAll fs c s done events s')
    (hne : ∀ d ∈ done, l ≠ d.1.outputPath.location) :
    s'.files.lookup l = s.files.lookup l := by
  induction h with
  | nil => rfl
  | @cons s mid s' t o events more later head tail ih =>
    have hhead := head.lookup_other (hne (t, o) List.mem_cons_self)
    exact (ih fun d hd => hne d (List.mem_cons_of_mem _ hd)).trans hhead

/-- A target is generated, or it fails and has changed nothing. -/
theorem target_cases (f : Store.Faulty) (c : Config) (t : Target) (s : Store) : ∃ events,
    (∃ o s', Generated f.fileSystem c s t o events s') ∨
      ∃ e, (generateTarget c t).course f.fileSystem s = (⟨events, .failed e⟩, s) ∧
        Fruitless events := by
  obtain ⟨scan, hsilent, ⟨rules, hscan⟩ | ⟨e, hscan⟩⟩ := f.looks_cases (dependencies_looks c t) s
  · have hgenerate : (generateTarget c t).course f.fileSystem s = _ := Script.course_bind_done hscan
    obtain ⟨rest, ⟨o, s', hupdate, updated, reports, writes⟩ | ⟨e, hupdate, hrest, -⟩⟩ :=
      f.update_cases t.outputPath (t.fragment rules) s
    · rw [updateRules, ← Target.fragment, hupdate] at hgenerate
      exact ⟨_, Or.inl ⟨o, s', .intro hgenerate hscan hsilent updated reports writes⟩⟩
    · rw [updateRules, ← Target.fragment, hupdate] at hgenerate
      exact ⟨_, Or.inr ⟨e, hgenerate, hsilent.append_fruitless hrest⟩⟩
  · exact ⟨scan, Or.inr ⟨e, Script.course_bind_failed hscan, hsilent.fruitless⟩⟩

theorem generateEach_cons (c : Config) (t : Target) (later : List Target) :
    generateEach c (t :: later) = (generateTarget c t).mapFailure (.inTarget t.name) >>= fun o =>
      Script.notify (.updated t.outputPath o) >>= fun _ => generateEach c later :=
  Script.bind_assoc _ _ _

theorem each_cons_done {mid : Store}
    (h : (generateTarget c t).course fs s = (⟨events, .done o⟩, mid)) (later : List Target)
    {more : List Event} {ending : Ending Unit}
    (hlater : (generateEach c later).course fs mid = (⟨more, ending⟩, s')) :
    (generateEach c (t :: later)).course fs s =
      (⟨events ++ .told (.updated t.outputPath o) :: more, ending⟩, s') := by
  have hnamed := Script.course_mapFailure_of (.inTarget t.name) h
  rw [generateEach_cons, Script.course_bind_done hnamed, Script.notify_bind, Script.course_tell,
    hlater]
  rfl

theorem each_cons_failed {e : Failure}
    (h : (generateTarget c t).course fs s = (⟨events, .failed e⟩, s')) (later : List Target) :
    (generateEach c (t :: later)).course fs s =
      (⟨events, .failed (.inTarget t.name e)⟩, s') := by
  have hnamed := Script.course_mapFailure_of (.inTarget t.name) h
  rw [generateEach_cons, Script.course_bind_failed hnamed]

/-- The targets that were generated make a whole run by themselves. -/
theorem GeneratedAll.course (h : GeneratedAll fs c s done events s') :
    (generateEach c (done.map (·.1))).course fs s = (⟨events, .done ()⟩, s') := by
  induction h with
  | nil => rfl
  | cons head _ ih => exact each_cons_done head.course _ ih

/-- A run generates its targets up to the first that fails, which changes nothing any more. -/
theorem each_cases (f : Store.Faulty) (c : Config) (targets : List Target) (s : Store) :
    ∃ done events s', GeneratedAll f.fileSystem c s done events s' ∧
      (targets = done.map (·.1) ∧
          (generateEach c targets).course f.fileSystem s = (⟨events, .done ()⟩, s') ∨
        ∃ t later e rest, targets = done.map (·.1) ++ t :: later ∧ Fruitless rest ∧
          (generateEach c targets).course f.fileSystem s =
            (⟨events ++ rest, .failed (.inTarget t.name e)⟩, s')) := by
  induction targets generalizing s with
  | nil => exact ⟨[], [], s, .nil s, Or.inl ⟨rfl, rfl⟩⟩
  | cons t targets ih =>
    obtain ⟨scan, ⟨o, mid, head⟩ | ⟨e, hfailed, hscan⟩⟩ := target_cases f c t s
    · obtain ⟨done, events, s', tail, hcases⟩ := ih mid
      refine ⟨(t, o) :: done, _, s', .cons head tail, ?_⟩
      rcases hcases with ⟨rfl, hcourse⟩ | ⟨u, later, e, rest, rfl, hrest, hcourse⟩
      · exact Or.inl ⟨rfl, each_cons_done head.course _ hcourse⟩
      · refine Or.inr ⟨u, later, e, rest, rfl, hrest, ?_⟩
        rw [List.append_assoc]
        exact each_cons_done head.course _ hcourse
    · exact ⟨[], [], s, .nil s, Or.inr ⟨t, targets, e, scan, rfl, hscan,
        each_cons_failed hfailed targets⟩⟩

/-- A run that is done has generated the targets that it selected, and has reported them. -/
theorem generate_done {names : List String} {notices : List Notice}
    (h : (generate c names).run Store.fileSystem s = (⟨notices, .done ()⟩, s')) :
    ∃ done events, c.select names = .ok (done.map (·.1)) ∧
      GeneratedAll Store.fileSystem c s done events s' ∧
      notices.filterMap Notice.report? = done.map fun d => (d.1.outputPath, d.2) := by
  rw [generate_eq] at h
  cases hselect : c.select names with
  | error e =>
    rw [hselect] at h
    cases h
  | ok targets =>
    rw [hselect] at h
    obtain ⟨done, events, mid, hdone, ⟨rfl, hcourse⟩ | ⟨t, later, e, rest, _, _, hcourse⟩⟩ :=
      each_cases .reliable c targets s
    · cases h.symm.trans (Script.run_of_course hcourse)
      exact ⟨done, events, rfl, hdone, (Course.reports_run _).trans hdone.reports⟩
    · cases h.symm.trans (Script.run_of_course hcourse)

/-- A run behind refused calls. An unknown name ends it before anything happens. Otherwise some of
the selected targets, from the first on, are generated and reported, and are all that is reported;
either they are all of them, or the next one fails the run under its own name. From the last report
on the store stays as it is. -/
theorem generate_stops_at_failure (refusals : List FileSystem.Refusal) (c : Config)
    (names : List String) (s : Store) :
    let fs := FileSystem.refusing refusals Store.fileSystem
    match c.select names with
    | .error e => (generate c names).course fs s = (⟨[], .failed e⟩, s)
    | .ok targets => ∃ done events rest ending s',
      (generate c names).course fs s = (⟨events ++ rest, ending⟩, s') ∧
      GeneratedAll fs c s done events s' ∧
      (generateEach c (done.map (·.1))).course fs s = (⟨events, .done ()⟩, s') ∧
      Fruitless rest ∧
      ((generate c names).run fs s).1.notices.filterMap Notice.report? =
        done.map (fun d => (d.1.outputPath, d.2)) ∧
      (targets = done.map (·.1) ∧ ending = .done () ∨
        ∃ t later failure cause, targets = done.map (·.1) ++ t :: later ∧
          ending = .failed failure ∧ failure.message = "target " ++ t.name ++ ": " ++ cause) := by
  intro fs
  rw [generate_eq]
  cases c.select names with
  | error e => rfl
  | ok targets =>
    obtain ⟨done, events, s', hdone, hcases⟩ := each_cases (.ofRefusals refusals) c targets s
    have hreports (rest : List Event) (hrest : Fruitless rest) (ending : Ending Unit)
        (hcourse : (generateEach c targets).course fs s = (⟨events ++ rest, ending⟩, s')) :
        ((generateEach c targets).run fs s).1.notices.filterMap Notice.report? =
          done.map (fun d => (d.1.outputPath, d.2)) := by
      rw [Script.run_of_course hcourse, Course.reports_run, List.filterMap_append, hdone.reports,
        hrest.reports, List.append_nil]
    rcases hcases with ⟨rfl, hcourse⟩ | ⟨t, later, e, rest, ht, hrest, hcourse⟩
    · have hnil : Fruitless [] := Silent.fruitless ⟨rfl, rfl⟩
      rw [← List.append_nil events] at hcourse
      exact ⟨done, events, [], _, s', hcourse, hdone, hdone.course, hnil, hreports _ hnil _ hcourse,
        Or.inl ⟨rfl, rfl⟩⟩
    · exact ⟨done, events, rest, _, s', hcourse, hdone, hdone.course, hrest,
        hreports _ hrest _ hcourse, Or.inr ⟨t, later, _, e.message, ht, rfl, rfl⟩⟩

end IncludeRules
