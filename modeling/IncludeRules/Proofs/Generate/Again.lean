import IncludeRules.Proofs.Generate.Targets
import Mathlib.Logic.Function.Iterate

/-! Generating again what has been generated. -/

namespace IncludeRules

variable {c : Config} {s s' : Store} {t : Target} {o : Outcome} {path : Path} {text : String}
  {events : List Event} {done : List (Target × Outcome)}

/-- The rules of a target in a store, unless its scan fails there. -/
def Store.rules? (s : Store) (c : Config) (t : Target) : Option (List Rule) :=
  ((dependencies c t).run Store.fileSystem s).1.ending.done?

/-- The rules of targets in a run, each in the store that the targets before it have left. -/
def rulesInTurn (c : Config) : List Target → Store → List (Option (List Rule))
  | [], _ => []
  | t :: later, s =>
    s.rules? c t :: rulesInTurn c later ((generateTarget c t).run Store.fileSystem s).2

/-- What generating leaves of a store. -/
def Store.generated (c : Config) (names : List String) (s : Store) : Store :=
  ((generate c names).run Store.fileSystem s).2

/-- The output of a target holds what would be written for it. -/
def Settled (c : Config) (s : Store) (t : Target) : Prop :=
  ∃ rules, s.rules? c t = some rules ∧
    s.octets? t.outputPath = some (.ofString (t.fragment rules))

theorem rules?_of_course {rules : List Rule}
    (h : (dependencies c t).course Store.fileSystem s = (⟨events, .done rules⟩, s')) :
    s.rules? c t = some rules := by
  rw [Store.rules?, Script.run_of_course h]
  rfl

/-- A target that was generated had rules, and its output was updated to their fragment. -/
theorem Generated.updates (h : Generated Store.fileSystem c s t o events s') :
    ∃ rules, s.rules? c t = some rules ∧
      s.Updates t.outputPath (.ofString (t.fragment rules)) o s' := by
  cases h with
  | intro _ scanned _ updated => exact ⟨_, rules?_of_course scanned, updated⟩

theorem course_of_rules? {rules : List Rule} (h : s.rules? c t = some rules) :
    ∃ scan, Silent scan ∧
      (dependencies c t).course Store.fileSystem s = (⟨scan, .done rules⟩, s) := by
  obtain ⟨scan, hsilent, hcases⟩ := Store.Faulty.reliable.looks_cases (dependencies_looks c t) s
  rw [Store.Faulty.reliable_fileSystem] at hcases
  rcases hcases with ⟨a, hcourse⟩ | ⟨e, hcourse⟩
  · have ha := rules?_of_course hcourse
    rw [h] at ha
    cases ha
    exact ⟨scan, hsilent, hcourse⟩
  · rw [Store.rules?, Script.run_of_course hcourse] at h
    cases h

/-- Once all targets are generated, each is settled if its rules are still what they were when it
was scanned: the only writes that can have met its output since are its own. -/
theorem GeneratedAll.settled (h : GeneratedAll Store.fileSystem c s done events s')
    (hout : ∀ t ∈ done.map (·.1), ∀ u ∈ done.map (·.1),
      t.outputPath.location = u.outputPath.location → t = u)
    (hrules : rulesInTurn c (done.map (·.1)) s = (done.map (·.1)).map (s'.rules? c)) :
    ∀ t ∈ done.map (·.1), Settled c s' t := by
  induction h with
  | nil => exact fun _ ht => nomatch ht
  | @cons s mid s' t o events more later head tail ih =>
    obtain ⟨rules, hscanned, hupdates⟩ := head.updates
    rw [List.map_cons, rulesInTurn, List.map_cons, Script.run_of_course head.course] at hrules
    obtain ⟨hrules, hlater⟩ := List.cons.inj hrules
    have ih := ih (fun t ht u hu => hout t (List.mem_cons_of_mem _ ht) u
      (List.mem_cons_of_mem _ hu)) hlater
    intro u hu
    -- A target that has another turn is settled by that one. Otherwise no later output is its own.
    by_cases hlater : u ∈ later.map (·.1)
    · exact ih u hlater
    · obtain rfl : u = t := (List.mem_cons.mp hu).resolve_right hlater
      have hkept : s'.octets? u.outputPath = mid.octets? u.outputPath := by
        refine tail.lookup_other fun d hd heq => hlater ?_
        have hmem : d.1 ∈ later.map (·.1) := List.mem_map_of_mem hd
        rw [hout u List.mem_cons_self d.1 (List.mem_cons_of_mem _ hmem) heq]
        exact hmem
      exact ⟨rules, hrules.symm.trans hscanned, hkept.trans hupdates.octets?_self⟩

/-- A settled target is scanned again and left alone. -/
theorem Settled.course (h : Settled c s t) : ∃ events,
    (generateTarget c t).course Store.fileSystem s = (⟨events, .done .unchanged⟩, s) ∧
      events.filterMap Event.report? = [] := by
  obtain ⟨rules, hrules, hout⟩ := h
  obtain ⟨scan, hsilent, hscan⟩ := course_of_rules? hrules
  have hgenerate : (generateTarget c t).course Store.fileSystem s = _ :=
    Script.course_bind_done hscan
  rw [updateRules, ← Target.fragment, Store.update_unchanged hout] at hgenerate
  refine ⟨_, hgenerate, ?_⟩
  rw [List.filterMap_append, hsilent.reports]
  rfl

/-- A run over settled targets reports all of them as unchanged and leaves the store as it is. -/
theorem settled_course {targets : List Target} (h : ∀ t ∈ targets, Settled c s t) : ∃ events,
    (generateEach c targets).course Store.fileSystem s = (⟨events, .done ()⟩, s) ∧
      events.filterMap Event.report? = targets.map fun t => (t.outputPath, .unchanged) := by
  induction targets with
  | nil => exact ⟨[], rfl, rfl⟩
  | cons t later ih =>
    obtain ⟨events, hhead, hreports⟩ := (h t List.mem_cons_self).course
    obtain ⟨more, htail, hmore⟩ := ih fun u hu => h u (List.mem_cons_of_mem _ hu)
    refine ⟨_, each_cons_done hhead later htail, ?_⟩
    rw [List.filterMap_append, hreports, List.nil_append, List.map_cons, ← hmore]
    rfl

/-- Generating is idempotent. After a run that went well, any number of further runs go well too,
report all targets as unchanged and leave the store as it is, without a single write. -/
theorem generate_again {names : List String} {targets : List Target} {notices : List Notice}
    (hrun : (generate c names).run Store.fileSystem s = (⟨notices, .done ()⟩, s'))
    (hselect : c.select names = .ok targets)
    (hout : ∀ t ∈ targets, ∀ u ∈ targets, t.outputPath.location = u.outputPath.location → t = u)
    (hrules : rulesInTurn c targets s = targets.map (s'.rules? c)) (n : ℕ) :
    ∃ again, (generate c names).run Store.fileSystem ((Store.generated c names)^[n] s') =
        (⟨again, .done ()⟩, s') ∧
      again.filterMap Notice.report? = targets.map fun t => (t.outputPath, .unchanged) := by
  have heach : generate c names = generateEach c targets := by
    rw [generate_eq, hselect]
    rfl
  obtain ⟨done, events, hdone, hall, -⟩ := generate_done hrun
  cases hselect.symm.trans hdone
  obtain ⟨more, hmore, hreports⟩ := settled_course (hall.settled hout hrules)
  have hagain := Script.run_of_course hmore
  have hfixed : s'.generated c names = s' := by rw [Store.generated, heach, hagain]
  rw [Function.iterate_fixed hfixed, heach]
  exact ⟨_, hagain, (Course.reports_run _).trans hreports⟩

theorem run_generated (c : Config) (names : List String) (s : Store)
    (h : ((generate c names).run Store.fileSystem s).1.ending.done? = some ()) :
    ∃ notices, (generate c names).run Store.fileSystem s =
      (⟨notices, .done ()⟩, s.generated c names) := by
  refine ⟨((generate c names).run Store.fileSystem s).1.notices, ?_⟩
  rw [← Ending.eq_done h]
  rfl

/-- Two targets whose outputs are spelled differently, one of them with a source of its own. -/
def twoTargets : Config where
  sources := ["a.c"]
  includes := ["inc"]
  targets := [{ name := "x", output := "x.mak" },
    { name := "y", sources := ["b.c"], output := "./y.mak" }]

def twoSources : Store :=
  ((Store.empty.insert (.ofString "a.c") (.ofString "#include \"a.h\"\n")).insert
    (.ofString "b.c") (.ofString "#include \"a.h\"\n")).insert
    (.ofString "inc/a.h") (.ofString "#include \"a.h\"\n")

/-- One target is asked for twice. Both outputs are written once, and never again. -/
theorem generate_again_twoTargets :
    let names := ["x", "y", "x"]
    let s' := twoSources.generated twoTargets names
    s'.writes = 2 ∧ ∃ again,
      (generate twoTargets names).run Store.fileSystem ((Store.generated twoTargets names)^[3] s') =
        (⟨again, .done ()⟩, s') ∧
      again.filterMap Notice.report? = [(.ofString "x.mak", .unchanged),
        (.ofString "./y.mak", .unchanged), (.ofString "x.mak", .unchanged)] := by
  intro names s'
  obtain ⟨notices, hrun⟩ := run_generated twoTargets names twoSources (by decide +kernel)
  refine ⟨by decide +kernel, ?_⟩
  exact generate_again hrun rfl (by decide +kernel) (by decide +kernel) 3

end IncludeRules
