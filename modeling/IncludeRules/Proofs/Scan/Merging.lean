import IncludeRules.Proofs.Scan.Footprint
import IncludeRules.Proofs.Scan.Shortened
import IncludeRules.Proofs.Script.Yields
import Mathlib.Data.List.Nodup

/-! Headers are found once each; which of them are reported alike. -/

namespace IncludeRules.Scan

open Script

variable {σ : Type} {fs : FileSystem (StateM σ)} {s : σ} {scanner : Scanner}
  {start p q : String} {patterns found : List String} {rules : List Rule}

/-- Two paths of which nothing but the same is left when they are reported: they differ in the
direction of slashes at most, or one of them is the other with the start directory before it. -/
inductive Merges (start p q : String) : Prop
  | slashes (same : plain p = plain q)
  | first (given : start ≠ "") (taken : plain p = start ++ plain q)
    (outside : ¬start.toList <+: (plain q).toList)
  | second (given : start ≠ "") (taken : plain q = start ++ plain p)
    (outside : ¬start.toList <+: (plain p).toList)

/-- How a path is reported depends on its plain form only. -/
theorem shorten_congr (h : plain p = plain q) : shorten start p = shorten start q := by
  have hchars : p.toList.map (fun c => if c == '\\' then '/' else c) =
      q.toList.map (fun c => if c == '\\' then '/' else c) := String.ofList_injective h
  simp only [shorten, hchars]

/-- The start directory is taken away where it stands, and what is left is reported. -/
theorem shorten_of_taken (given : start ≠ "") (taken : plain p = start ++ plain q)
    (outside : ¬start.toList <+: (plain q).toList) : shorten start p = shorten start q := by
  have hq : shorten start q = plain q := by
    rcases shorten_plain_cases start q with ⟨hwhole, -⟩ | ⟨-, htaken⟩
    · exact hwhole
    · rw [htaken, String.toList_append] at outside
      exact absurd (List.prefix_append _ _) outside
  have hp : plain p = start ++ shorten start p := by
    rcases shorten_plain_cases start p with ⟨-, hnot⟩ | ⟨-, htaken⟩
    · rw [taken, String.toList_append] at hnot
      exact absurd (List.prefix_append _ _) (hnot given)
    · exact htaken
  rw [hq]
  exact (String.append_right_inj start).mp (hp.symm.trans taken)

theorem shorten_eq_iff : shorten start p = shorten start q ↔ Merges start p q := by
  constructor
  · intro h
    rcases shorten_plain_cases start p with ⟨hp, houtp⟩ | ⟨hne, hp⟩ <;>
      rcases shorten_plain_cases start q with ⟨hq, houtq⟩ | ⟨hne', hq⟩
    · exact .slashes (hp.symm.trans (h.trans hq))
    · refine .second hne' ?_ (houtp hne')
      rw [hq, ← h, hp]
    · refine .first hne ?_ (houtq hne)
      rw [hp, h, hq]
    · refine .slashes ?_
      rw [hp, hq, h]
  · intro h
    cases h with
    | slashes same => exact shorten_congr same
    | first given taken outside => exact shorten_of_taken given taken outside
    | second given taken outside => exact (shorten_of_taken given taken outside).symm

theorem scanName_nodup {search : Search} {depth : Nat}
    (ih : ∀ path found, found.Nodup → (visit search depth path found).Yields List.Nodup)
    (name : String) (h : found.Nodup) : (scanName search depth found name).Yields List.Nodup := by
  apply yields_bind (yields_any (resolve _ _))
  intro target _
  cases target with
  | none => exact h
  | some path =>
    by_cases hpath : path ∈ found
    · simp only [hpath, if_true]
      exact h
    · simp only [hpath, if_false]
      have hlone : [path].Nodup := List.nodup_singleton path
      exact ih path _ (h.append hlone (List.disjoint_singleton.mpr hpath))

/-- A scan adds a path only where it was not found before. -/
theorem visit_nodup (search : Search) (depth : Nat) (file : String) (found : List String)
    (h : found.Nodup) : (visit search depth file found).Yields List.Nodup := by
  induction depth generalizing file found with
  | zero => trivial
  | succ depth ih =>
    rw [visit_succ]
    apply yields_bind (yields_any (namesIn file))
    intro names _
    exact yields_foldlM (fun _ name hfound => scanName_nodup ih name hfound) names h

theorem findAll_nodup (scanner : Scanner) (patterns : List String) :
    (findAll scanner patterns).Yields fun founds => ∀ f ∈ founds, f.headers.Nodup := by
  have hsource (source : String) : (findFrom scanner source).Yields (·.headers.Nodup) := by
    rw [findFrom, headersOf]
    apply yields_bind (visit_nodup scanner.search scanner.search.limit source [] List.nodup_nil)
    intro headers hheaders
    exact hheaders
  have hpattern (expanded : Script (List String)) :
      (expanded >>= fun sources => sources.mapM (findFrom scanner)).Yields
        fun founds => ∀ f ∈ founds, f.headers.Nodup :=
    yields_bind (yields_any expanded) fun sources _ => yields_mapM hsource sources
  rw [findAll]
  apply yields_bind (yields_mapM (fun pattern => hpattern (expand pattern)) patterns)
  intro groups hgroups f hf
  obtain ⟨founds, hfounds, hmem⟩ := List.mem_flatten.mp hf
  exact hgroups founds hfounds f hmem

/-- A scan finds each header once, but what it reports of two headers may be the same. The headers
of a rule repeat exactly where two different ones merge. -/
theorem reported_headers_nodup_iff
    (h : ((find scanner patterns).run fs s).1.ending = .done rules) :
    ∃ founds, ((findAll scanner patterns).run fs s).1.ending = .done founds ∧
      rules = founds.map (Found.rule scanner) ∧
      ∀ f ∈ founds, f.headers.Nodup ∧
        ((f.rule scanner).headers.Nodup ↔
          ∀ p ∈ f.headers, ∀ q ∈ f.headers, Merges scanner.startDirectory p q → p = q) := by
  obtain ⟨founds, hfounds, hrules⟩ := find_done h
  refine ⟨founds, hfounds, hrules, fun f hf => ?_⟩
  have honce : f.headers.Nodup := (findAll_nodup scanner patterns).of_run_done hfounds f hf
  refine ⟨honce, ?_⟩
  rw [Found.rule, List.nodup_map_iff_inj_on honce]
  simp only [shorten_eq_iff]

/-- Two headers with one name, the one in the start directory and the one beside it, and two headers
of which one has a backslash in its name. -/
def namesakes : Store :=
  (((((((Store.empty.insert (.ofString "m.c")
    (.ofString "#include \"src/a.h\"\n#include \"a.h\"\n")).insert
    (.ofString "n.c") (.ofString "#include \"inc/b.h\"\n#include \"inc\\b.h\"\n")).insert
    (.ofString "o.c") (.ofString "#include \"inc/b.h\"\n#include \"src/a.h\"\n")).insert
    (.ofString "src/a.h") []).insert (.ofString "a.h") []).insert
    (.ofString "inc/b.h") []).insert (.ofString "inc\\b.h") [])

def namesakesScanner : Scanner where
  search := ⟨[""], [], standardLimit⟩
  startDirectory := "src/"
  objectSuffix := ".o"

theorem reported_headers_nodup_namesakes :
    ∃ founds, ((findAll namesakesScanner ["o.c"]).run Store.fileSystem namesakes).1.ending =
        .done founds ∧
      ([⟨"o.o", some "o.c", ["inc/b.h", "a.h"]⟩] : List Rule) =
        founds.map (Found.rule namesakesScanner) ∧
      ∀ f ∈ founds, f.headers.Nodup ∧
        ((f.rule namesakesScanner).headers.Nodup ↔
          ∀ p ∈ f.headers, ∀ q ∈ f.headers, Merges "src/" p q → p = q) := by
  have hrun : ((find namesakesScanner ["o.c"]).run Store.fileSystem namesakes).1.ending =
      .done [⟨"o.o", some "o.c", ["inc/b.h", "a.h"]⟩] := Ending.eq_done (by decide +kernel)
  exact reported_headers_nodup_iff hrun

/-- A rule lists a header twice when the start directory, or the direction of a slash, is all that
distinguishes two headers. -/
theorem find_repeats_headers :
    ((find namesakesScanner ["m.c", "n.c"]).run Store.fileSystem namesakes).1.ending =
        .done [⟨"m.o", some "m.c", ["a.h", "a.h"]⟩, ⟨"n.o", some "n.c", ["inc/b.h", "inc/b.h"]⟩] ∧
      ¬["a.h", "a.h"].Nodup ∧ ¬["inc/b.h", "inc/b.h"].Nodup :=
  ⟨Ending.eq_done (by decide +kernel), by decide, by decide⟩

end IncludeRules.Scan
