import IncludeRules.Proofs.Scan.Reachable

/-! Depth-first walks over the include graph that have not come to their end. -/

namespace IncludeRules.Scan

variable {fs : FileSystem Id} {search : Search} {name path : String}
  {names names' found mid found' found'' : List String}

/-- A walk over names that started with some paths found, and what it has found when it is stopped.
It may be stopped anywhere: before a name, and inside the scan of a path that it has just found. -/
inductive Underway (fs : FileSystem Id) (search : Search) :
    List String → List String → List String → Prop where
  | stop (names found : List String) : Underway fs search names found found
  | skip {name : String} {names found found' : List String}
      (known : ∀ path, target? fs search name = some path → path ∈ found)
      (tail : Underway fs search names found found') :
      Underway fs search (name :: names) found found'
  | inside {name path : String} {names found found' : List String}
      (leads : target? fs search name = some path) (fresh : path ∉ found)
      (below : Underway fs search (namesOf fs path) (found ++ [path]) found') :
      Underway fs search (name :: names) found found'
  | past {name path : String} {names found mid found' : List String}
      (leads : target? fs search name = some path) (fresh : path ∉ found)
      (below : Walk fs search (namesOf fs path) (found ++ [path]) mid)
      (tail : Underway fs search names mid found') : Underway fs search (name :: names) found found'

/-- A walk is determined by where it starts. -/
theorem walk_unique (h : Walk fs search names found found')
    (h' : Walk fs search names found found'') : found' = found'' := by
  induction h generalizing found'' with
  | nil =>
    cases h'
    rfl
  | skip known _ ih =>
    cases h' with
    | skip _ tail => exact ih tail
    | enter leads fresh => exact absurd (known _ leads) fresh
  | enter leads fresh _ _ ihb iht =>
    cases h' with
    | skip known => exact absurd (known _ leads) fresh
    | enter leads' _ below tail =>
      obtain rfl := Option.some.inj (leads.symm.trans leads')
      obtain rfl := ihb below
      exact iht tail

/-- What a walk has found when it is stopped comes first in what it finds in the end. -/
theorem underway_prefix_of_walk (h : Underway fs search names found found')
    (hwalk : Walk fs search names found found'') : found' <+: found'' := by
  induction h generalizing found'' with
  | stop => exact walk_extends hwalk
  | skip known _ ih =>
    cases hwalk with
    | skip _ tail => exact ih tail
    | enter leads fresh => exact absurd (known _ leads) fresh
  | inside leads fresh _ ih =>
    cases hwalk with
    | skip known => exact absurd (known _ leads) fresh
    | enter leads' _ below tail =>
      obtain rfl := Option.some.inj (leads.symm.trans leads')
      exact (ih below).trans (walk_extends tail)
  | past leads fresh below _ ih =>
    cases hwalk with
    | skip known => exact absurd (known _ leads) fresh
    | enter leads' _ below' tail =>
      obtain rfl := Option.some.inj (leads.symm.trans leads')
      obtain rfl := walk_unique below below'
      exact ih tail

theorem underway_extends (h : Underway fs search names found found') : found <+: found' := by
  induction h with
  | stop => exact List.prefix_refl _
  | skip _ _ ih => exact ih
  | inside _ _ _ ih => exact (List.prefix_append _ _).trans ih
  | past leads fresh below _ ih =>
    exact (walk_extends (.enter leads fresh below (.nil _))).trans ih

/-- Of a walk that is stopped twice, one time comes after the other. -/
theorem underway_total (h : Underway fs search names found found')
    (h' : Underway fs search names found found'') : found' <+: found'' ∨ found'' <+: found' := by
  induction h generalizing found'' with
  | stop => exact Or.inl (underway_extends h')
  | skip known tail ih =>
    cases h' with
    | stop => exact Or.inr (underway_extends tail)
    | skip _ tail' => exact ih tail'
    | inside leads fresh | past leads fresh => exact absurd (known _ leads) fresh
  | inside leads fresh below ih =>
    cases h' with
    | stop => exact Or.inr ((List.prefix_append _ _).trans (underway_extends below))
    | skip known => exact absurd (known _ leads) fresh
    | inside leads' _ below' =>
      obtain rfl := Option.some.inj (leads.symm.trans leads')
      exact ih below'
    | past leads' _ below' tail' =>
      obtain rfl := Option.some.inj (leads.symm.trans leads')
      exact Or.inl ((underway_prefix_of_walk below below').trans (underway_extends tail'))
  | past leads fresh below tail ih =>
    cases h' with
    | stop => exact Or.inr (underway_extends (.past leads fresh below tail))
    | skip known => exact absurd (known _ leads) fresh
    | inside leads' _ below' =>
      obtain rfl := Option.some.inj (leads.symm.trans leads')
      exact Or.inr ((underway_prefix_of_walk below' below).trans (underway_extends tail))
    | past leads' _ below' tail' =>
      obtain rfl := Option.some.inj (leads.symm.trans leads')
      obtain rfl := walk_unique below below'
      exact ih tail'

/-- A walk that is stopped is also stopped there when there are more names to come. -/
theorem underway_append (h : Underway fs search names found found') (later : List String) :
    Underway fs search (names ++ later) found found' := by
  induction h with
  | stop => exact .stop _ _
  | skip known _ ih => exact .skip known ih
  | inside leads fresh below _ => exact .inside leads fresh below
  | past leads fresh below _ ih => exact .past leads fresh below ih

/-- A walk goes on where an earlier one ended. -/
theorem underway_after (h : Walk fs search names found mid)
    (h' : Underway fs search names' mid found') :
    Underway fs search (names ++ names') found found' := by
  induction h with
  | nil => exact h'
  | skip known _ ih => exact .skip known (ih h')
  | enter leads fresh below _ _ ih => exact .past leads fresh below (ih h')

theorem whitePath_names_mono (hsub : names ⊆ names') (h : WhitePath fs search found names path) :
    WhitePath fs search found names' path := by
  induction h with
  | start mem leads fresh => exact .start (hsub mem) leads fresh
  | step _ edge fresh ih => exact .step ih edge fresh

/-- Names lead to all that a walk over them has found. -/
theorem mem_underway (h : Underway fs search names found found') (hpath : path ∈ found') :
    path ∈ found ∨ WhitePath fs search found names path := by
  induction h with
  | stop => exact Or.inl hpath
  | skip _ _ ih => exact (ih hpath).imp_right whitePath_cons
  | @inside _ p _ found _ leads fresh _ ih =>
    rcases ih hpath with hmem | hwhite
    · rcases List.mem_append.mp hmem with hmem | hmem
      · exact Or.inl hmem
      · obtain rfl := List.mem_singleton.mp hmem
        exact Or.inr (.start List.mem_cons_self leads fresh)
    · exact Or.inr (whitePath_enter leads fresh hwhite)
  | @past name p _ found mid _ leads fresh below _ ih =>
    have hwalk : Walk fs search [name] found mid := .enter leads fresh below (.nil mid)
    rcases ih hpath with hmem | hwhite
    · refine ((mem_walk_iff hwalk path).mp hmem).imp_right (whitePath_names_mono ?_)
      exact List.cons_subset_cons name (List.nil_subset _)
    · exact Or.inr (whitePath_cons (whitePath_mono (walk_extends hwalk).subset hwhite))

end IncludeRules.Scan
