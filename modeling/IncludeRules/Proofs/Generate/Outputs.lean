import IncludeRules.Proofs.Generate.Again

/-! What a run leaves in the outputs of its targets. -/

namespace IncludeRules

variable {c : Config} {s s' : Store} {events : List Event} {done : List (Target × Outcome)}

theorem exists_last {α : Type} {p : α → Prop} {l : List α} (h : ∃ x ∈ l, p x) :
    ∃ before y after, l = before ++ y :: after ∧ p y ∧ ∀ z ∈ after, ¬p z := by
  induction l with
  | nil =>
    obtain ⟨x, hx, _⟩ := h
    cases hx
  | cons x l ih =>
    by_cases hlater : ∃ y ∈ l, p y
    · obtain ⟨before, y, after, rfl, hy, hafter⟩ := ih hlater
      exact ⟨x :: before, y, after, rfl, hy, hafter⟩
    · obtain ⟨y, hy, hpy⟩ := h
      rcases List.mem_cons.mp hy with rfl | hy
      · exact ⟨[], y, l, rfl, hpy, fun z hz hpz => hlater ⟨z, hz, hpz⟩⟩
      · exact absurd ⟨y, hy, hpy⟩ hlater

/-- Each target that was generated had rules at its turn, and its output keeps their fragment as long
as no later target has an output in the same place. -/
theorem GeneratedAll.exists_turns (h : GeneratedAll Store.fileSystem c s done events s') :
    ∃ turns : List (Target × List Rule), turns.map (·.1) = done.map (·.1) ∧
      rulesInTurn c (turns.map (·.1)) s = turns.map (fun d => some d.2) ∧
      ∀ before t rules after, turns = before ++ (t, rules) :: after →
        (∀ d ∈ after, d.1.outputPath.location ≠ t.outputPath.location) →
          s'.octets? t.outputPath = some (.ofString (t.fragment rules)) := by
  induction h with
  | nil => exact ⟨[], rfl, rfl, fun before _ _ _ hsplit => by cases before <;> cases hsplit⟩
  | @cons s mid s' t o events more later head tail ih =>
    obtain ⟨turns, hturns, hrules, hlast⟩ := ih
    obtain ⟨rules, hscanned, hupdates⟩ := head.updates
    refine ⟨(t, rules) :: turns, congrArg (t :: ·) hturns, ?_, ?_⟩
    · rw [List.map_cons, rulesInTurn, Script.run_of_course head.course, hrules, hscanned]
      rfl
    · intro before u rules' after hsplit hafter
      cases before with
      | nil =>
        cases hsplit
        have hkept : s'.octets? t.outputPath = mid.octets? t.outputPath := by
          refine tail.lookup_other fun d hd heq => ?_
          have hmem : d.1 ∈ turns.map (·.1) := hturns ▸ List.mem_map_of_mem hd
          obtain ⟨e, he, hde⟩ := List.mem_map.mp hmem
          exact hafter e he (hde ▸ heq.symm)
        exact hkept.trans hupdates.octets?_self
      | cons first before =>
        obtain ⟨-, hsplit⟩ := List.cons.inj hsplit
        exact hlast before u rules' after hsplit hafter

/-- After a run that went well, each selected output holds the fragment of the last selected target
whose output is in the same place, from the rules that this target had at its turn. So a target's own
fragment stays unless a later target overwrites it. -/
theorem generate_leaves_last_fragments {names : List String} {notices : List Notice}
    (hrun : (generate c names).run Store.fileSystem s = (⟨notices, .done ()⟩, s')) :
    ∃ turns : List (Target × List Rule), c.select names = .ok (turns.map (·.1)) ∧
      rulesInTurn c (turns.map (·.1)) s = turns.map (fun d => some d.2) ∧
      (∀ d ∈ turns, ∃ before t rules after, turns = before ++ (t, rules) :: after ∧
        t.outputPath.location = d.1.outputPath.location ∧
        (∀ e ∈ after, e.1.outputPath.location ≠ d.1.outputPath.location) ∧
        s'.octets? d.1.outputPath = some (.ofString (t.fragment rules))) ∧
      ∀ before t rules after, turns = before ++ (t, rules) :: after →
        (∀ e ∈ after, e.1.outputPath.location ≠ t.outputPath.location) →
          s'.octets? t.outputPath = some (.ofString (t.fragment rules)) := by
  obtain ⟨done, events, hselect, hdone, -⟩ := generate_done hrun
  obtain ⟨turns, hturns, hrules, hlast⟩ := hdone.exists_turns
  refine ⟨turns, hturns ▸ hselect, hrules, fun d hd => ?_, hlast⟩
  obtain ⟨before, ⟨t, rules⟩, after, hsplit, ht, hafter⟩ :=
    exists_last (p := fun e => e.1.outputPath.location = d.1.outputPath.location) ⟨d, hd, rfl⟩
  have hkept := hlast before t rules after hsplit fun e he => ht.symm ▸ hafter e he
  rw [Store.octets?, ht] at hkept
  exact ⟨before, t, rules, after, hsplit, ht, hafter, hkept⟩

/-- A target and another one that writes to the same place, spelled differently. -/
def overwritten : Target where
  name := "x"
  sources := ["a.c"]
  output := "d.mak"
  headerComment := "# x"

def overwriting : Target where
  name := "y"
  sources := ["b.c"]
  output := "x/../d.mak"
  headerComment := "# y"

def onePlace : Config where
  includes := ["inc"]
  targets := [overwritten, overwriting]

def overwrittenRules : List Rule :=
  [⟨"a.o", some "a.c", ["inc/a.h"]⟩]

def overwritingRules : List Rule :=
  [⟨"b.o", some "b.c", ["inc/a.h"]⟩]

theorem turns_onePlace {turns : List (Target × List Rule)}
    (hselect : onePlace.select [] = .ok (turns.map (·.1)))
    (hrules : rulesInTurn onePlace (turns.map (·.1)) twoSources = turns.map fun d => some d.2) :
    turns = [(overwritten, overwrittenRules), (overwriting, overwritingRules)] := by
  have htargets : turns.map (·.1) = [overwritten, overwriting] := (Except.ok.inj hselect).symm
  have hinTurn : rulesInTurn onePlace [overwritten, overwriting] twoSources =
      [some overwrittenRules, some overwritingRules] := by decide +kernel
  rw [htargets, hinTurn] at hrules
  match turns, htargets, hrules with
  | [(_, _), (_, _)], htargets, hrules =>
    cases htargets
    cases hrules
    rfl

/-- Both outputs hold the fragment of the second target. -/
theorem generate_leaves_last_fragments_onePlace :
    let s' := twoSources.generated onePlace []
    let text := "# y\nb.o: \\\n\tb.c \\\n\tinc/a.h\n"
    (∃ notices, (generate onePlace []).run Store.fileSystem twoSources =
      (⟨notices, .done ()⟩, s')) ∧
    s'.octets? (.ofString "d.mak") = some (.ofString text) ∧
    s'.octets? (.ofString "x/../d.mak") = some (.ofString text) := by
  intro s' text
  obtain ⟨notices, hrun⟩ := run_generated onePlace [] twoSources (by decide +kernel)
  obtain ⟨turns, hselect, hrules, -, hlast⟩ := generate_leaves_last_fragments hrun
  have hturns := turns_onePlace hselect hrules
  have hkept := hlast [(overwritten, overwrittenRules)] overwriting overwritingRules [] hturns
    fun _ he => nomatch he
  have htext : overwriting.fragment overwritingRules = text := by decide +kernel
  rw [htext] at hkept
  have hplace : (Path.ofString "d.mak").location = overwriting.outputPath.location := by
    decide +kernel
  refine ⟨⟨notices, hrun⟩, ?_, hkept⟩
  rw [Store.octets?, hplace]
  exact hkept

/-- Names of targets are checked, but not their outputs: the fragment of the first target is lost. -/
theorem fragment_overwritten :
    onePlace.validate = .ok () ∧
    twoSources.rules? onePlace overwritten = some overwrittenRules ∧
    (twoSources.generated onePlace []).octets? overwritten.outputPath ≠
      some (.ofString (overwritten.fragment overwrittenRules)) ∧
    ¬∀ (c : Config) (names : List String) (s s' : Store) (notices : List Notice),
      c.validate = .ok () →
      (generate c names).run Store.fileSystem s = (⟨notices, .done ()⟩, s') →
      ∃ turns : List (Target × List Rule), c.select names = .ok (turns.map (·.1)) ∧
        rulesInTurn c (turns.map (·.1)) s = turns.map (fun d => some d.2) ∧
        ∀ d ∈ turns, s'.octets? d.1.outputPath = some (.ofString (d.1.fragment d.2)) := by
  have hvalid : onePlace.validate = .ok () := rfl
  have hlost : (twoSources.generated onePlace []).octets? overwritten.outputPath ≠
      some (.ofString (overwritten.fragment overwrittenRules)) := by decide +kernel
  refine ⟨hvalid, by decide +kernel, hlost, fun h => ?_⟩
  obtain ⟨notices, hrun⟩ := run_generated onePlace [] twoSources (by decide +kernel)
  obtain ⟨turns, hselect, hrules, hkept⟩ := h _ _ _ _ _ hvalid hrun
  have hturns := turns_onePlace hselect hrules
  exact hlost (hkept (overwritten, overwrittenRules) (hturns ▸ List.mem_cons_self))

end IncludeRules
