import IncludeRules.Proofs.Generate.Again
import IncludeRules.Proofs.Store.Agreement
import Mathlib.Data.List.Perm.Basic

/-! Targets that do not touch each other may be generated in any order. -/

namespace IncludeRules

variable {c : Config} {s m s' : Store} {t : Target} {o : Outcome} {places : List Location}
  {events : List Event} {targets : List Target} {done : List (Target × Outcome)}

namespace Config

theorem mapM_named {names : List String} (h : names.mapM c.named = .ok targets) :
    names.map c.target? = targets.map some := by
  induction names generalizing targets with
  | nil =>
    cases h
    rfl
  | cons n names ih =>
    rw [List.mapM_cons, named] at h
    cases hn : c.target? n with
    | none =>
      rw [hn] at h
      cases h
    | some t =>
      rw [hn] at h
      cases hlater : names.mapM c.named with
      | error e =>
        rw [hlater] at h
        cases h
      | ok later =>
        rw [hlater] at h
        cases h
        rw [List.map_cons, hn, ih hlater]
        rfl

/-- Names in another order select the targets in another order. -/
theorem select_perm {names names' : List String} {targets' : List Target}
    (hperm : names'.Perm names) (h : c.select names = .ok targets)
    (h' : c.select names' = .ok targets') : targets'.Perm targets := by
  by_cases hnil : names = []
  · subst hnil
    cases hperm.eq_nil
    cases h.symm.trans h'
    exact .refl _
  · have hnil' : names' ≠ [] := fun h => hnil (h ▸ hperm).symm.eq_nil
    rw [select, if_neg hnil] at h
    rw [select, if_neg hnil'] at h'
    have hmap := hperm.map c.target?
    rw [mapM_named h, mapM_named h'] at hmap
    exact (List.map_perm_map_iff (Option.some_injective _)).mp hmap

end Config

/-- The rules of a target do not depend on what a store holds at some places. -/
def Store.Blind (s : Store) (c : Config) (places : List Location) (t : Target) : Prop :=
  ∀ m, s.AgreesOutside places m → m.rules? c t = s.rules? c t

/-- Targets that do not touch each other: their outputs are in different places, and the rules of
none of them depend on what is there. -/
structure Store.Independent (s : Store) (c : Config) (targets : List Target) : Prop where
  apart : (targets.map (·.outputPath.location)).Nodup
  blind : ∀ t ∈ targets, s.Blind c (targets.map (·.outputPath.location)) t

theorem Store.Blind.agrees (h : s.Blind c places t) (hm : s.AgreesOutside places m) :
    m.Blind c places t :=
  fun u hu => (h u (hm.trans hu)).trans (h m hm).symm

/-- A scan that asks for nothing at the places is blind to them. -/
theorem blind_of_misses
    (h : ∀ e ∈ ((dependencies c t).course (Scan.frozen s)).calls, e.Misses places) :
    s.Blind c places t := by
  intro m hm
  rw [Store.rules?, hm.run (dependencies_looks c t) h]
  rfl

/-- What a target would write when it were generated from a store. -/
def Store.contents? (s : Store) (c : Config) (t : Target) : Option Octets :=
  (s.rules? c t).map fun rules => .ofString (t.fragment rules)

/-- The outcome that a target would have when it were generated from a store. A target whose scan
fails leaves its output unchanged. -/
def Store.outcome (s : Store) (c : Config) (t : Target) : Outcome :=
  match s.contents? c t with
  | some contents => .ofContents contents (s.octets? t.outputPath)
  | none => .unchanged

theorem Store.contents?_of_rules? {rules : List Rule} (h : s.rules? c t = some rules) :
    s.contents? c t = some (.ofString (t.fragment rules)) := by
  rw [contents?, h]
  rfl

theorem Store.contents?_congr (h : m.rules? c t = s.rules? c t) :
    m.contents? c t = s.contents? c t := by
  rw [contents?, contents?, h]

theorem Store.outcome_congr (h : m.rules? c t = s.rules? c t)
    (ho : m.octets? t.outputPath = s.octets? t.outputPath) : m.outcome c t = s.outcome c t := by
  rw [outcome, outcome, contents?_congr h, ho]

theorem GeneratedAll.writes_eq (h : GeneratedAll Store.fileSystem c s done events s') :
    s'.writes = s.writes + (done.map (·.2)).countP Outcome.isWrite := by
  induction h with
  | nil => rfl
  | cons head _ ih =>
    obtain ⟨rules, -, hupdates⟩ := head.updates
    rw [ih, hupdates.writes_eq, List.map_cons, List.countP_cons, ← Nat.add_assoc]
    exact Nat.add_right_comm ..

/-- Each target does what it would have done as the first one. -/
theorem GeneratedAll.as_first (h : GeneratedAll Store.fileSystem c s done events s')
    (hplaces : ∀ d ∈ done, d.1.outputPath.location ∈ places)
    (hapart : (done.map (·.1.outputPath.location)).Nodup)
    (hblind : ∀ d ∈ done, s.Blind c places d.1) :
    ∀ d ∈ done, s'.octets? d.1.outputPath = s.contents? c d.1 ∧ d.2 = s.outcome c d.1 := by
  induction h with
  | nil => exact fun _ hd => nomatch hd
  | @cons s mid s' t o events more later head tail ih =>
    obtain ⟨rules, hrules, hupdates⟩ := head.updates
    have hcontents := Store.contents?_of_rules? hrules
    obtain ⟨hout, hapart⟩ := List.nodup_cons.mp hapart
    have hother : ∀ d ∈ later, d.1.outputPath.location ≠ t.outputPath.location :=
      fun d hd heq => hout (List.mem_map.mpr ⟨d, hd, heq⟩)
    have hagrees : s.AgreesOutside places mid := fun l hl =>
      hupdates.lookup_other fun heq => hl (heq ▸ hplaces (t, o) List.mem_cons_self)
    intro d hd
    rcases List.mem_cons.mp hd with rfl | hd
    · have hkept := tail.lookup_other fun d hd => (hother d hd).symm
      rw [Store.outcome, hcontents]
      exact ⟨hkept.trans hupdates.octets?_self, hupdates.outcome_eq⟩
    · have hsame := hblind d (List.mem_cons_of_mem _ hd) mid hagrees
      have hkept : mid.octets? d.1.outputPath = s.octets? d.1.outputPath :=
        hupdates.lookup_other (hother d hd)
      rw [← Store.contents?_congr hsame, ← Store.outcome_congr hsame hkept]
      exact ih (fun e he => hplaces e (List.mem_cons_of_mem _ he)) hapart
        (fun e he => (hblind e (List.mem_cons_of_mem _ he)).agrees hagrees) d hd

/-- What independent targets do can be told without their order. -/
theorem GeneratedAll.of_independent (h : GeneratedAll Store.fileSystem c s done events s')
    (hperm : (done.map (·.1)).Perm targets) (hind : s.Independent c targets) :
    ∀ d ∈ done, s'.octets? d.1.outputPath = s.contents? c d.1 ∧ d.2 = s.outcome c d.1 := by
  have hmem : ∀ d ∈ done, d.1 ∈ targets := fun d hd => hperm.mem_iff.mp (List.mem_map_of_mem hd)
  have hapart := (hperm.map (·.outputPath.location)).nodup_iff.mpr hind.apart
  rw [List.map_map] at hapart
  exact h.as_first (fun d hd => List.mem_map.mpr ⟨d.1, hmem d hd, rfl⟩) hapart
    fun d hd => hind.blind d.1 (hmem d hd)

theorem GeneratedAll.map_outcomes {β : Type} (f : Target → Outcome → β)
    (h : GeneratedAll Store.fileSystem c s done events s')
    (hperm : (done.map (·.1)).Perm targets) (hind : s.Independent c targets) :
    done.map (fun d => f d.1 d.2) = (done.map (·.1)).map fun t => f t (s.outcome c t) := by
  rw [List.map_map]
  exact List.map_congr_left fun d hd => congrArg (f d.1) (h.of_independent hperm hind d hd).2

/-- How often independent targets write does not depend on their order. -/
theorem GeneratedAll.writes_of_independent (h : GeneratedAll Store.fileSystem c s done events s')
    (hperm : (done.map (·.1)).Perm targets) (hind : s.Independent c targets) :
    s'.writes = s.writes + (targets.map (s.outcome c)).countP Outcome.isWrite := by
  rw [h.writes_eq, h.map_outcomes (fun _ o => o) hperm hind, (hperm.map _).countP_eq]

/-- Two runs over the same independent targets leave the same files. -/
theorem GeneratedAll.lookup_congr {s₁ s₂ : Store} {done' : List (Target × Outcome)}
    {more : List Event} (h : GeneratedAll Store.fileSystem c s done events s₁)
    (h' : GeneratedAll Store.fileSystem c s done' more s₂)
    (hperm : (done'.map (·.1)).Perm (done.map (·.1)))
    (hind : s.Independent c (done.map (·.1))) (l : Location) :
    s₂.files.lookup l = s₁.files.lookup l := by
  by_cases hl : ∃ d ∈ done, l = d.1.outputPath.location
  · obtain ⟨d, hd, rfl⟩ := hl
    obtain ⟨e, he, hed⟩ := List.mem_map.mp (hperm.mem_iff.mpr (List.mem_map_of_mem hd))
    have hone := (h.of_independent (.refl _) hind d hd).1
    have htwo := (h'.of_independent hperm hind e he).1
    rw [hed] at htwo
    exact htwo.trans hone.symm
  · have hone := h.lookup_other fun d hd heq => hl ⟨d, hd, heq⟩
    have htwo : s₂.files.lookup l = s.files.lookup l := by
      refine h'.lookup_other fun e he heq => ?_
      obtain ⟨d, hd, hde⟩ := List.mem_map.mp (hperm.mem_iff.mp (List.mem_map_of_mem he))
      exact hl ⟨d, hd, hde ▸ heq⟩
    exact htwo.trans hone.symm

/-- Independent targets may be asked for in any order: when both runs go well, they leave the same
files after equally many writes, and each target has the outcome that it would have alone. -/
theorem generate_in_any_order {names names' : List String} {notices notices' : List Notice}
    {s₁ s₂ : Store} (hperm : names'.Perm names) (hselect : c.select names = .ok targets)
    (hind : s.Independent c targets)
    (hrun : (generate c names).run Store.fileSystem s = (⟨notices, .done ()⟩, s₁))
    (hrun' : (generate c names').run Store.fileSystem s = (⟨notices', .done ()⟩, s₂)) :
    (∀ l, s₂.files.lookup l = s₁.files.lookup l) ∧ s₂.writes = s₁.writes ∧
      notices.filterMap Notice.report? =
        targets.map (fun t => (t.outputPath, s.outcome c t)) ∧
      ∃ targets', c.select names' = .ok targets' ∧ targets'.Perm targets ∧
        notices'.filterMap Notice.report? =
          targets'.map fun t => (t.outputPath, s.outcome c t) := by
  obtain ⟨done, events, hdone, hall, hreports⟩ := generate_done hrun
  obtain ⟨done', more, hdone', hall', hreports'⟩ := generate_done hrun'
  cases hselect.symm.trans hdone
  have htargets := Config.select_perm hperm hdone hdone'
  have hwrites := hall.writes_of_independent (.refl _) hind
  have hwrites' := hall'.writes_of_independent htargets hind
  rw [hall.map_outcomes (fun t o => (t.outputPath, o)) (.refl _) hind] at hreports
  rw [hall'.map_outcomes (fun t o => (t.outputPath, o)) htargets hind] at hreports'
  exact ⟨hall.lookup_congr hall' htargets hind, hwrites'.trans hwrites.symm, hreports, _, hdone',
    htargets, hreports'⟩

/-- The sources of two targets, and a fragment that one of them has left before. -/
def staleFragment : Store :=
  twoSources.insert (.ofString "x.mak") (.ofString "")

theorem independent_twoTargets : staleFragment.Independent twoTargets twoTargets.targets where
  apart := by decide +kernel
  blind t ht := by
    refine blind_of_misses ?_
    revert t
    decide +kernel

/-- One output is replaced and the other one is new, whichever of them is first. -/
theorem generate_in_any_order_twoTargets :
    let s₁ := staleFragment.generated twoTargets ["x", "y"]
    let s₂ := staleFragment.generated twoTargets ["y", "x"]
    (∀ l, s₂.files.lookup l = s₁.files.lookup l) ∧ s₂.writes = s₁.writes ∧
      ∃ notices, (generate twoTargets ["y", "x"]).run Store.fileSystem staleFragment =
          (⟨notices, .done ()⟩, s₂) ∧
        notices.filterMap Notice.report? =
          [(.ofString "./y.mak", .new), (.ofString "x.mak", .changed)] := by
  intro s₁ s₂
  obtain ⟨notices, hrun⟩ := run_generated twoTargets ["x", "y"] staleFragment (by decide +kernel)
  obtain ⟨notices', hrun'⟩ := run_generated twoTargets ["y", "x"] staleFragment (by decide +kernel)
  obtain ⟨hfiles, hwrites, -, targets', hselect', -, hreports'⟩ :=
    generate_in_any_order (.swap ..) rfl independent_twoTargets hrun hrun'
  cases hselect'
  refine ⟨hfiles, hwrites, notices', hrun', hreports'.trans ?_⟩
  decide +kernel

end IncludeRules
