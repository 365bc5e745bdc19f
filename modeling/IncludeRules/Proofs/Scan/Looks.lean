import IncludeRules.Command.Generate
import IncludeRules.Proofs.Store.Updates

/-! Scanning only looks at files, whatever it finds. -/

namespace IncludeRules

open Script

namespace Scan

theorem resolve_looks (name : String) (directories : List String) :
    (resolve name directories).Looks := by
  induction directories with
  | nil => exact within_done none
  | cons directory rest ih =>
    unfold resolve
    refine within_bind ⟨rfl, fun _ => within_done _⟩ fun present => ?_
    cases present with
    | false => exact ih
    | true => exact within_done _

theorem namesIn_looks (file : String) : (namesIn file).Looks := by
  refine within_bind ⟨rfl, fun _ => within_done _⟩ fun contents => ?_
  exact within_bind (within_orFail _ contents) fun _ => within_done _

theorem visit_looks (search : Search) (depth : Nat) (file : String) (found : List String) :
    (visit search depth file found).Looks := by
  induction depth generalizing file found with
  | zero => exact within_fail _
  | succ depth ih =>
    unfold visit
    refine within_bind (namesIn_looks file) fun names => ?_
    refine within_foldlM (fun found name => ?_) names _
    refine within_bind (resolve_looks _ _) fun target => ?_
    cases target with
    | none => exact within_done found
    | some path =>
      by_cases h : path ∈ found
      · simp only [h, if_true]
        exact within_done found
      · simp only [h, if_false]
        exact ih path _

theorem expand_looks (pattern : String) : (expand pattern).Looks := by
  unfold expand
  obtain ⟨part, name⟩ := splitPattern pattern
  dsimp only
  split
  · exact within_fail _
  split
  · exact within_bind ⟨rfl, fun _ => within_done _⟩ fun _ => within_done _
  refine within_bind ⟨rfl, fun _ => within_done _⟩ fun directory => ?_
  cases directory with
  | false => exact within_done _
  | true =>
    refine within_bind (within_ofExcept _) fun p => ?_
    refine within_bind ⟨rfl, fun _ => within_done _⟩ fun entries => ?_
    exact within_bind (within_orFail _ entries) fun _ => within_done _

theorem ruleOf_looks (scanner : Scanner) (source : String) : (ruleOf scanner source).Looks := by
  refine within_bind (visit_looks _ _ _ _) fun headers => ?_
  exact within_bind ⟨rfl, within_done _⟩ fun _ => within_done _

theorem find_looks (scanner : Scanner) (patterns : List String) :
    (find scanner patterns).Looks := by
  refine within_bind (within_mapM (fun pattern => ?_) patterns) fun rules => within_done _
  exact within_bind (expand_looks pattern) fun sources => within_mapM (ruleOf_looks scanner) sources

end Scan

theorem dependencies_looks (c : Config) (t : Target) : (dependencies c t).Looks :=
  within_bind (Scan.find_looks _ _) fun _ => within_done _

end IncludeRules
