import IncludeRules.Proofs.Scan.Graph
import IncludeRules.Store
import Mathlib.Logic.Relation

/-! Successful scans find exactly what is reachable in the include graph, each path once. -/

namespace IncludeRules.Scan

variable {fs : FileSystem Id} {search : Search} {file name path a b : String}
  {names found mid found' : List String}

/-- A path that names lead to through paths that were not found before. The path itself is none of
those either. -/
inductive WhitePath (fs : FileSystem Id) (search : Search) (found names : List String) :
    String → Prop where
  | start {name path : String} (mem : name ∈ names) (leads : target? fs search name = some path)
      (fresh : path ∉ found) : WhitePath fs search found names path
  | step {a b : String} (before : WhitePath fs search found names a)
      (edge : Includes fs search a b) (fresh : b ∉ found) : WhitePath fs search found names b

theorem whitePath_fresh (h : WhitePath fs search found names path) : path ∉ found := by
  cases h <;> assumption

theorem whitePath_mono (hsub : found ⊆ mid) (h : WhitePath fs search mid names path) :
    WhitePath fs search found names path := by
  induction h with
  | start mem leads fresh => exact .start mem leads fun h => fresh (hsub h)
  | step _ edge fresh ih => exact .step ih edge fun h => fresh (hsub h)

theorem whitePath_cons (h : WhitePath fs search found names path) :
    WhitePath fs search found (name :: names) path := by
  induction h with
  | start mem leads fresh => exact .start (List.mem_cons_of_mem _ mem) leads fresh
  | step _ edge fresh ih => exact .step ih edge fresh

/-- What a path that was just found leads to, its name leads to. -/
theorem whitePath_enter (leads : target? fs search name = some path) (fresh : path ∉ found)
    (h : WhitePath fs search (found ++ [path]) (namesOf fs path) b) :
    WhitePath fs search found (name :: names) b := by
  have hsub : found ⊆ found ++ [path] := List.subset_append_left found [path]
  induction h with
  | start mem leads' fresh' =>
    exact .step (.start List.mem_cons_self leads fresh) ⟨_, mem, leads'⟩ fun h => fresh' (hsub h)
  | step _ edge fresh' ih => exact .step ih edge fun h => fresh' (hsub h)

/-- A name that stands for nothing new leads to nothing new. -/
theorem whitePath_skip (known : ∀ path, target? fs search name = some path → path ∈ found)
    (h : WhitePath fs search found (name :: names) b) : WhitePath fs search found names b := by
  induction h with
  | start mem leads fresh =>
    rcases List.mem_cons.mp mem with rfl | mem
    · exact absurd (known _ leads) fresh
    · exact .start mem leads fresh
  | step _ edge fresh ih => exact .step ih edge fresh

theorem not_whitePath_nil : ¬ WhitePath fs search found [] b := by
  intro h
  induction h with
  | start mem => cases mem
  | step _ _ _ ih => exact ih

/-- Once a path is finished, what was added since it was found leads to nothing new. This fails
while the path is still being scanned, hence the assumption on all of `mid`. -/
theorem finished_closed
    (hmid : ∀ c, c ∈ mid ↔
      c ∈ found ++ [path] ∨ WhitePath fs search (found ++ [path]) (namesOf fs path) c)
    (ha : a ∈ mid) (hfresh : a ∉ found) (edge : Includes fs search a b) (fresh : b ∉ found) :
    b ∈ mid := by
  by_cases hb : b = path
  · exact (hmid b).mpr (Or.inl (by simp [hb]))
  have hb : b ∉ found ++ [path] := by simp [fresh, hb]
  apply (hmid b).mpr
  rcases (hmid a).mp ha with ha | ha
  · have ha : a = path := by simpa [hfresh] using ha
    subst ha
    obtain ⟨name, mem, leads⟩ := edge
    exact Or.inr (.start mem leads hb)
  · exact Or.inr (.step ha edge hb)

/-- What is led to is found with the first name, or led to afterwards by the others. -/
theorem whitePath_split (leads : target? fs search name = some path)
    (hmid : ∀ c, c ∈ mid ↔
      c ∈ found ++ [path] ∨ WhitePath fs search (found ++ [path]) (namesOf fs path) c)
    (h : WhitePath fs search found (name :: names) b) :
    b ∈ mid ∨ WhitePath fs search mid names b := by
  induction h with
  | @start name' path' mem leads' fresh =>
    by_cases hp : path' ∈ mid
    · exact Or.inl hp
    rcases List.mem_cons.mp mem with rfl | mem
    · have he : path' = path := Option.some.inj (leads'.symm.trans leads)
      exact absurd ((hmid path').mpr (Or.inl (by simp [he]))) hp
    · exact Or.inr (.start mem leads' hp)
  | @step a b before edge fresh ih =>
    by_cases hb : b ∈ mid
    · exact Or.inl hb
    -- `b` is not found, so the path before it cannot be among those that are finished.
    rcases ih with ha | ha
    · exact Or.inl (finished_closed hmid ha (whitePath_fresh before) edge fresh)
    · exact Or.inr (.step ha edge hb)

theorem walk_extends (h : Walk fs search names found found') : found <+: found' := by
  induction h with
  | nil => exact List.prefix_refl _
  | skip _ _ ih => exact ih
  | enter _ _ _ _ ihb iht => exact ((List.prefix_append _ _).trans ihb).trans iht

theorem walk_nodup (h : Walk fs search names found found') (hf : found.Nodup) : found'.Nodup := by
  induction h with
  | nil => exact hf
  | skip _ _ ih => exact ih hf
  | @enter name path names found mid found' _ fresh _ _ ihb iht =>
    apply iht
    apply ihb
    refine List.nodup_append.mpr ⟨hf, by simp, ?_⟩
    intro x hx y hy he
    have hy : y = path := by simpa using hy
    exact fresh (hy ▸ he ▸ hx)

/-- A successful scan adds exactly the paths that its names lead to outside those found before. -/
theorem mem_walk_iff (h : Walk fs search names found found') (b : String) :
    b ∈ found' ↔ b ∈ found ∨ WhitePath fs search found names b := by
  induction h generalizing b with
  | nil found => exact ⟨Or.inl, fun h => h.resolve_right not_whitePath_nil⟩
  | skip known _ ih =>
    rw [ih]
    exact or_congr_right ⟨whitePath_cons, whitePath_skip known⟩
  | @enter name path names found mid found' leads fresh below tail ihb iht =>
    have hsub : found ⊆ mid := ((List.prefix_append _ _).trans (walk_extends below)).subset
    rw [iht]
    constructor
    · rintro (hb | hb)
      · rcases (ihb b).mp hb with hb | hb
        · rcases List.mem_append.mp hb with hb | hb
          · exact Or.inl hb
          · have hb : b = path := by simpa using hb
            exact Or.inr (hb ▸ .start List.mem_cons_self leads fresh)
        · exact Or.inr (whitePath_enter leads fresh hb)
      · exact Or.inr (whitePath_cons (whitePath_mono hsub hb))
    · rintro (hb | hb)
      · exact Or.inl (hsub hb)
      · exact whitePath_split leads ihb hb

/-- The edges of the include graph that lead to a path outside `found`. -/
def IncludesOutside (fs : FileSystem Id) (search : Search) (found : List String) (a b : String) :
    Prop :=
  Includes fs search a b ∧ b ∉ found

/-- The names of a file lead to what it reaches by edges outside the paths found before. -/
theorem whitePath_iff_transGen :
    WhitePath fs search found (namesOf fs file) b ↔
      Relation.TransGen (IncludesOutside fs search found) file b := by
  constructor
  · intro h
    induction h with
    | start mem leads fresh => exact .single ⟨⟨_, mem, leads⟩, fresh⟩
    | step _ edge fresh ih => exact .tail ih ⟨edge, fresh⟩
  · intro h
    induction h with
    | single edge =>
      obtain ⟨⟨name, mem, leads⟩, fresh⟩ := edge
      exact .start mem leads fresh
    | tail _ edge ih => exact .step ih edge.1 edge.2

/-- With nothing found before, the names of a file lead to all that it reaches. -/
theorem whitePath_file_iff :
    WhitePath fs search [] (namesOf fs file) b ↔ Relation.TransGen (Includes fs search) file b := by
  have hall : IncludesOutside fs search [] = Includes fs search := by
    funext a b
    simp [IncludesOutside]
  rw [whitePath_iff_transGen, hall]

/-- A successful scan keeps what was found before and adds, each once, exactly the paths that the
file reaches by one or more edges without ever meeting one of those. What is only reached through a
path found before is not added, whether or not that path has been scanned. -/
theorem visit_adds_reachable_outside {fs : FileSystem Id} {search : Search} {depth : Nat}
    {file : String} {found found' : List String} (hfound : found.Nodup)
    (h : ((visit search depth file found).run fs).ending = .done found') :
    ∃ new, found' = found ++ new ∧ (found ++ new).Nodup ∧
      ∀ path, path ∈ new ↔ Relation.TransGen (IncludesOutside fs search found) file path := by
  have hwalk := visit_done h
  have hnodup := walk_nodup hwalk hfound
  obtain ⟨new, rfl⟩ := walk_extends hwalk
  refine ⟨new, rfl, hnodup, fun path => ?_⟩
  rw [← whitePath_iff_transGen]
  have hmem := mem_walk_iff hwalk path
  constructor
  · intro hnew
    have hfresh : path ∉ found :=
      fun hfound => (List.nodup_append.mp hnodup).2.2 path hfound path hnew rfl
    exact (hmem.mp (List.mem_append_right found hnew)).resolve_left hfresh
  · intro hpath
    have hadded := hmem.mpr (Or.inr hpath)
    exact (List.mem_append.mp hadded).resolve_left (whitePath_fresh hpath)

/-- The headers of a file are the paths that it reaches by one or more edges, each once. A file is
among its own headers when it reaches itself. -/
theorem headersOf_eq_reachable {fs : FileSystem Id} {search : Search} {file : String}
    {found : List String} (h : ((headersOf search file).run fs).ending = .done found) :
    found.Nodup ∧ ∀ path, path ∈ found ↔ Relation.TransGen (Includes fs search) file path := by
  have hwalk := visit_done h
  refine ⟨walk_nodup hwalk List.nodup_nil, ?_⟩
  intro path
  rw [mem_walk_iff hwalk, whitePath_file_iff]
  simp

/-- A store that nothing is written to, as a file system without state. -/
def frozen (s : Store) : FileSystem Id where
  answer c := (Store.fileSystem.answer c s).1

/-- A source and two headers that include each other, one of them also under a former name. -/
def circle : Store :=
  ((Store.empty.insert (.ofString "main.c")
    (.ofString "#include \"a.h\"\n#include \"old.h\"\n#include <stdio.h>\n")).insert
    (.ofString "inc/a.h") (.ofString "#include \"b.h\"\n#include \"main.c\"\n")).insert
    (.ofString "inc/b.h") (.ofString "#include \"a.h\"\n")

def circleSearch : Search where
  directories := ["inc", ""]
  renames := [("old.h", "b.h")]
  limit := standardLimit

/-- The source reaches itself through one of the headers only, so once that one is found it adds
just the other. -/
theorem visit_adds_reachable_outside_circle :
    let outside := IncludesOutside (frozen circle) circleSearch ["inc/a.h"]
    let scan := visit circleSearch standardLimit "main.c" ["inc/a.h"]
    ["inc/a.h"].Nodup ∧ (scan.run (frozen circle)).ending = .done ["inc/a.h", "inc/b.h"] ∧
      ∀ path, path ∈ ["inc/b.h"] ↔ Relation.TransGen outside "main.c" path := by
  intro outside scan
  have hnodup : ["inc/a.h"].Nodup := by decide
  have hending : (scan.run (frozen circle)).ending = .done ["inc/a.h", "inc/b.h"] :=
    Ending.eq_done (by decide +kernel)
  obtain ⟨new, hnew, -, hpaths⟩ := visit_adds_reachable_outside hnodup hending
  have hnew : ["inc/b.h"] = new := (List.cons.inj hnew).2
  exact ⟨hnodup, hending, hnew ▸ hpaths⟩

theorem headersOf_circle : ["inc/a.h", "inc/b.h", "main.c"].Nodup ∧
    ∀ path, path ∈ ["inc/a.h", "inc/b.h", "main.c"] ↔
      Relation.TransGen (Includes (frozen circle) circleSearch) "main.c" path :=
  headersOf_eq_reachable (Ending.eq_done (by decide +kernel))

end IncludeRules.Scan
