import IncludeRules.Proofs.Rule.Reread
import Mathlib.Data.List.Basic

/-! Rules that were read, when they are written and read again. -/

namespace IncludeRules.Rule

open Text

variable {line p q : List Char} {d : Draft} {ds : List Draft} {text comment : String} {r : Rule}

/-- A name that is read as a prerequisite. -/
structure IsName (p : List Char) : Prop where
  solid : Solid p
  ne_nil : p ≠ []
  kept : isKept p = true

/-- What holds of the names of every rule that is read. -/
structure Draft.Tidy (d : Draft) : Prop where
  object : IsObject (.ofList d.object)
  prerequisites : ∀ p ∈ d.prerequisites, IsName p

theorem isName_of_mem_words {ws : List (List Char)} (hsub : ws ⊆ words line)
    (h : p ∈ ws.filter isKept) : IsName p := by
  obtain ⟨hp, hkept⟩ := List.mem_filter.mp h
  exact ⟨solid_of_mem_words (hsub hp), ne_nil_of_mem_words (hsub hp), hkept⟩

/-- A line that is no comment starts a rule with an object that can be written. -/
theorem tidy_start {o : List Char} {rest : List (List Char)}
    (hcomment : (content line).head? ≠ some '#') (hwords : words (content line) = o :: rest) :
    Draft.Tidy ⟨dropEndWhile (· == ':') o, rest.filter isKept⟩ where
  prerequisites p hp := isName_of_mem_words (by rw [hwords]; exact List.subset_cons_self o rest) hp
  object := by
    have hsolid : Solid o := solid_of_mem_words (hwords ▸ List.mem_cons_self)
    have hhead : o.head? = (content line).head? :=
      head?_of_words (fun c hc => head?_trim (head?_of_dropEndWhile hc)) hwords
    refine ⟨?_, ?_, ?_⟩ <;> rw [String.toList_ofList]
    · exact hsolid.dropEndWhile
    · exact fun h => hcomment (hhead.symm.trans (head?_of_dropEndWhile h))
    · intro h
      cases getLast?_dropEndWhile h

theorem tidy_readLine (hds : ∀ d ∈ ds, d.Tidy) (line : List Char) :
    ∀ d ∈ readLine ds line, d.Tidy := by
  unfold readLine
  dsimp only
  split
  · exact hds
  next hskip =>
    have hcomment : (content line).head? ≠ some '#' := by
      intro h
      simp [h] at hskip
    split
    · next d ds _ =>
      obtain ⟨hd, hds⟩ := List.forall_mem_cons.mp hds
      refine List.forall_mem_cons.mpr ⟨⟨hd.object, fun p hp => ?_⟩, hds⟩
      rcases List.mem_append.mp hp with hp | hp
      · exact hd.prerequisites p hp
      · exact isName_of_mem_words (List.Subset.refl _) hp
    · split
      · exact hds
      · next hwords => exact List.forall_mem_cons.mpr ⟨tidy_start hcomment hwords, hds⟩

theorem tidy_foldl (lines : List (List Char)) (hds : ∀ d ∈ ds, d.Tidy) :
    ∀ d ∈ lines.foldl readLine ds, d.Tidy := by
  induction lines generalizing ds with
  | nil => exact hds
  | cons line lines ih => exact ih (tidy_readLine hds line)

theorem prerequisites_ofPrerequisites (o : String) (ps : List String) :
    (ofPrerequisites o ps).prerequisites = ps := by
  cases ps <;> rfl

theorem exists_tidy (h : r ∈ extract text) : ∃ d : Draft, d.Tidy ∧ d.rule = r := by
  obtain ⟨d, hd, rfl⟩ := List.mem_map.mp h
  exact ⟨d, tidy_foldl _ (List.forall_mem_nil _) d (List.mem_reverse.mp hd), rfl⟩

theorem isObject_of_mem_extract (h : r ∈ extract text) : IsObject r.object := by
  obtain ⟨d, hd, rfl⟩ := exists_tidy h
  rw [Draft.rule]
  cases d.prerequisites <;> exact hd.object

theorem isName_of_mem_extract (h : r ∈ extract text) :
    ∀ p ∈ r.prerequisites, IsName p.toList := by
  obtain ⟨d, hd, rfl⟩ := exists_tidy h
  rw [Draft.rule, prerequisites_ofPrerequisites]
  simpa using hd.prerequisites

theorem ofPrerequisites_of_mem_extract (h : r ∈ extract text) :
    ofPrerequisites r.object r.prerequisites = r := by
  obtain ⟨d, -, rfl⟩ := exists_tidy h
  rw [Draft.rule, prerequisites_ofPrerequisites]
  cases d.prerequisites <;> rfl

/-- Rules that were read are read back from their text up to what becomes of single prerequisites. -/
theorem extract_fragment_extract (text : String) (hcomment : IsComment comment) :
    extract (fragment (extract text) comment) = (extract text).map reread :=
  extract_fragment (fun _ hr => isObject_of_mem_extract hr)
    (fun _ hr p hp => (isName_of_mem_extract hr p hp).solid) hcomment

theorem reread?_eq_self_iff (hp : IsName p) :
    reread? p = some p ↔ p.head? ≠ some '#' ∧ p.getLast? ≠ some '\\' := by
  rw [reread?_eq_some_iff, dropEndWhile_beq_eq_self_iff]
  constructor
  · rintro ⟨hlast, -, hhead, -⟩
    exact ⟨hhead, hlast⟩
  · rintro ⟨hhead, hlast⟩
    exact ⟨hlast, hp.ne_nil, hhead, hp.kept⟩

/-- Prerequisites none of which is taken for a comment or ends in what is taken for layout. -/
def Plain (rules : List Rule) : Prop :=
  ∀ r ∈ rules, ∀ p ∈ r.prerequisites,
    p.toList.head? ≠ some '#' ∧ p.toList.getLast? ≠ some '\\'

instance (rules : List Rule) : Decidable (Plain rules) :=
  inferInstanceAs (Decidable (∀ r ∈ rules, ∀ p ∈ r.prerequisites,
    p.toList.head? ≠ some '#' ∧ p.toList.getLast? ≠ some '\\'))

theorem reread_eq_self_iff (h : r ∈ extract text) :
    r.reread = r ↔ ∀ p ∈ r.prerequisites,
      p.toList.head? ≠ some '#' ∧ p.toList.getLast? ≠ some '\\' := by
  have hnames : r.reread = r ↔
      r.prerequisites.filterMap (fun p => (reread? p.toList).map String.ofList) =
        r.prerequisites.map id := by
    rw [List.map_id]
    constructor
    · intro hself
      rw [reread] at hself
      rw [← prerequisites_ofPrerequisites r.object (r.prerequisites.filterMap _), hself]
    · intro hself
      rw [reread, hself, ofPrerequisites_of_mem_extract h]
  rw [hnames, List.filterMap_eq_map_iff_forall_eq_some]
  refine forall₂_congr fun p hp => ?_
  rw [← reread?_eq_self_iff (isName_of_mem_extract h p hp)]
  constructor
  · intro hname
    obtain ⟨q, hq, rfl⟩ := Option.map_eq_some_iff.mp hname
    rw [hq, String.toList_ofList]
  · intro hname
    rw [hname, Option.map_some, String.ofList_toList]
    rfl

theorem map_reread_eq_self_iff (text : String) :
    (extract text).map reread = extract text ↔ Plain (extract text) := by
  have hmap : (extract text).map reread = (extract text).map id ↔
      ∀ r ∈ extract text, r.reread = r := List.map_inj_left
  rw [List.map_id] at hmap
  rw [hmap]
  exact forall₂_congr fun r hr => reread_eq_self_iff hr

/-- Nothing more becomes of prerequisites that were read back. -/
theorem plain_map_reread (rules : List Rule) : Plain (rules.map reread) := by
  intro r' hr' q hq
  obtain ⟨r, hr, rfl⟩ := List.mem_map.mp hr'
  rw [reread, prerequisites_ofPrerequisites] at hq
  obtain ⟨p, hp, hname⟩ := List.mem_filterMap.mp hq
  obtain ⟨name, hread, rfl⟩ := Option.map_eq_some_iff.mp hname
  rw [String.toList_ofList]
  obtain ⟨rfl, -, hhead, -⟩ := reread?_eq_some_iff.mp hread
  refine ⟨hhead, fun hlast => ?_⟩
  cases getLast?_dropEndWhile hlast

end IncludeRules.Rule
