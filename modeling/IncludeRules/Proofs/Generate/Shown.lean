import IncludeRules.Command.Show
import IncludeRules.Proofs.Generate.Targets
import IncludeRules.Proofs.Store.Frozen

/-! Showing the rules of a target and writing them. -/

namespace IncludeRules

open Script

variable {c : Config} {n : String} {s : Store} {t : Target} {path : Path} {text : String}

theorem showTarget_looks (c : Config) (name : Option String) (json : Bool) :
    (showTarget c name json).Looks := by
  refine within_bind (within_ofExcept _) fun targets => ?_
  cases targets with
  | nil => exact within_fail _
  | cons t later => exact within_bind (dependencies_looks c t) fun _ => within_done _

namespace Config

theorem name_of_target? (h : c.target? n = some t) : t.name = n := by
  have hname := List.find?_some h
  exact beq_iff_eq.mp hname

theorem select_of_target? (h : c.target? n = some t) : c.select [n] = .ok [t] := by
  have hnamed : c.named n = .ok t := by rw [named, h]
  rw [select, if_neg (List.cons_ne_nil _ _), List.mapM_cons, hnamed]
  rfl

theorem select_of_unknown (h : c.target? n = none) :
    c.select [n] = .error (.unknownTarget n (c.targets.map (·.name))) := by
  have hnamed : c.named n = .error (.unknownTarget n (c.targets.map (·.name))) := by
    rw [named, h]
  rw [select, if_neg (List.cons_ne_nil _ _), List.mapM_cons, hnamed]
  rfl

end Config

theorem showTarget_of_target? (h : c.target? n = some t) :
    showTarget c (some n) false = dependencies c t >>= fun rules => .done (Rule.render rules) := by
  rw [showTarget, Option.toList_some, Config.select_of_target? h]
  rfl

theorem generate_of_target? (h : c.target? n = some t) : generate c [n] = generateEach c [t] := by
  rw [generate_eq, Config.select_of_target? h]
  rfl

/-- Rules that were found are written below the comment, unless what exists at the output is no
file. -/
theorem generateTarget_of_rules {rules : List Rule} {scan : List Event}
    (hscan : (dependencies c t).course Store.fileSystem s = (⟨scan, .done rules⟩, s)) :
    ∃ events,
      (∃ o s', (generateTarget c t).course Store.fileSystem s = (⟨events, .done o⟩, s') ∧
        s'.octets? t.outputPath = some (.ofString (t.fragment rules))) ∨
      s.present t.outputPath = true ∧ s.octets? t.outputPath = none ∧
        (generateTarget c t).course Store.fileSystem s =
          (⟨events, .failed (.unreadableOutput t.outputPath.display
            (t.outputPath.display ++ ": no such file"))⟩, s) := by
  have hgenerate : (generateTarget c t).course Store.fileSystem s = _ := course_bind_done hscan
  rw [updateRules, ← Target.fragment] at hgenerate
  obtain ⟨events, ⟨o, s', hupdate, updated⟩ | ⟨hpresent, hnone, hupdate⟩⟩ :=
    Store.update_done_or_unreadable t.outputPath (t.fragment rules) s
  · rw [hupdate] at hgenerate
    exact ⟨_, Or.inl ⟨o, s', hgenerate, updated.octets?_self⟩⟩
  · rw [hupdate] at hgenerate
    exact ⟨_, Or.inr ⟨hpresent, hnone, hgenerate⟩⟩

/-- Showing a target and generating it agree. Showing leaves the store alone. An unknown name is the
same failure for both. Otherwise, what is shown is what the output holds below its comment once the
target is generated, unless what exists at the output is no file. A scan that fails fails both, the
run under the name of the target. -/
theorem generate_agrees_with_show (c : Config) (n : String) (s : Store) :
    let shown := (showTarget c (some n) false).run Store.fileSystem s
    let generated := (generate c [n]).run Store.fileSystem s
    shown.2 = s ∧
    match c.target? n with
    | none => ∃ e, shown.1.ending = .failed e ∧ generated.1.ending = .failed e ∧ generated.2 = s
    | some t => t.name = n ∧
      ((∃ text, shown.1.ending = .done text ∧
          (generated.1.ending = .done () ∧ generated.2.octets? t.outputPath =
              some (.ofString (.ofList (Text.trimEnd t.headerComment.toList) ++ "\n" ++ text)) ∨
            s.present t.outputPath = true ∧ s.octets? t.outputPath = none ∧
              (∃ cause, generated.1.ending =
                .failed (.inTarget n (.unreadableOutput t.outputPath.display cause))) ∧
              generated.2 = s)) ∨
        ∃ e failure, shown.1.ending = .failed e ∧ generated.1.ending = .failed failure ∧
          failure.message = "target " ++ n ++ ": " ++ e.message ∧ generated.2 = s) := by
  intro shown generated
  have hshown : shown.2 = s := by
    have hrun : shown = _ := Store.run_frozen (showTarget_looks c (some n) false) s
    rw [hrun]
  refine ⟨hshown, ?_⟩
  cases ht : c.target? n with
  | none =>
    have hshow : showTarget c (some n) false = .fail (.unknownTarget n (c.targets.map (·.name))) := by
      rw [showTarget, Option.toList_some, Config.select_of_unknown ht]
      rfl
    have hgenerate : generate c [n] = .fail (.unknownTarget n (c.targets.map (·.name))) := by
      rw [generate_eq, Config.select_of_unknown ht]
      rfl
    refine ⟨.unknownTarget n (c.targets.map (·.name)), ?_⟩
    simp only [shown, generated, hshow, hgenerate]
    exact ⟨rfl, rfl, rfl⟩
  | some t =>
    obtain rfl := Config.name_of_target? ht
    refine ⟨rfl, ?_⟩
    simp only [shown, generated, showTarget_of_target? ht, generate_of_target? ht]
    obtain ⟨scan, -, hcases⟩ := Store.Faulty.reliable.looks_cases (dependencies_looks c t) s
    rw [Store.Faulty.reliable_fileSystem] at hcases
    rcases hcases with ⟨rules, hscan⟩ | ⟨e, hscan⟩
    · rw [run_of_course (course_bind_done hscan)]
      refine Or.inl ⟨Rule.render rules, rfl, ?_⟩
      obtain ⟨events, ⟨o, s', hgenerate, hout⟩ | ⟨hpresent, hnone, hgenerate⟩⟩ :=
        generateTarget_of_rules hscan
      · rw [run_of_course (each_cons_done hgenerate [] rfl)]
        exact Or.inl ⟨rfl, hout⟩
      · rw [run_of_course (each_cons_failed hgenerate [])]
        exact Or.inr ⟨hpresent, hnone, ⟨_, rfl⟩, rfl⟩
    · have hgenerate : (generateTarget c t).course Store.fileSystem s = _ :=
        course_bind_failed hscan
      rw [run_of_course (course_bind_failed hscan), run_of_course (each_cons_failed hgenerate [])]
      exact Or.inr ⟨e, _, rfl, rfl, rfl, rfl⟩

end IncludeRules
