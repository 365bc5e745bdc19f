import IncludeRules.Proofs.Scan.Footprint

/-! Scans that look in more directories. -/

namespace IncludeRules.Scan

open Script
open Relation (TransGen)

variable {fs : FileSystem Id} {search : Search} {more : List String}
  {file name path a b : String} {directories found found' : List String}

/-- The same search with more directories, which come last. -/
def Search.extended (search : Search) (more : List String) : Search :=
  { search with directories := search.directories ++ more }

/-- A name that stands for a path still stands for it when there are more directories to look in. -/
theorem target?_extended (more : List String) (h : target? fs search name = some path) :
    target? fs (search.extended more) name = some path := by
  have hfirst : ((search.directories ++ more).map (candidate · (search.renamed name))).find?
      (has fs) = some path := by
    rw [List.map_append, List.find?_append]
    rw [target?] at h
    rw [h]
    rfl
  exact hfirst

theorem includes_extended (more : List String) (h : Includes fs search a b) :
    Includes fs (search.extended more) a b := by
  obtain ⟨name, hname, htarget⟩ := h
  exact ⟨name, hname, target?_extended more htarget⟩

theorem mem_headersOf_iff (h : ((headersOf search file).run fs).ending = .done found) :
    path ∈ found ↔ TransGen (Includes fs search) file path := by
  rw [mem_walk_iff (visit_done h), whitePath_file_iff]
  constructor
  · intro hpath
    exact hpath.resolve_left List.not_mem_nil
  · intro hreached
    exact Or.inr hreached

/-- Looking in a directory where the name is not present leads nowhere. -/
theorem resolve_absent
    (h : ∀ d ∈ more, fs.answer (.present (.ofString (candidate d name))) = .ok false) :
    ((resolve name more).run fs : Run (Option String)) = ⟨[], .done none⟩ := by
  induction more with
  | nil => rfl
  | cons d more ih =>
    obtain ⟨hd, hmore⟩ := List.forall_mem_cons.mp h
    rw [resolve, Script.present, call_bind, run_call_id, hd]
    exact ih hmore

/-- A directory in which a name was looked for before makes no difference. -/
theorem resolve_extended (h : ∀ d ∈ more, d ∈ directories ∨
      fs.answer (.present (.ofString (candidate d name))) = .ok false) :
    ((resolve name (directories ++ more)).run fs : Run (Option String)) =
      (resolve name directories).run fs := by
  induction directories with
  | nil =>
    apply resolve_absent
    intro d hd
    exact (h d hd).resolve_left List.not_mem_nil
  | cons first rest ih =>
    rw [List.cons_append, resolve, resolve, Script.present, call_bind, call_bind, run_call_id,
      run_call_id]
    rcases hanswer : fs.answer (.present (.ofString (candidate first name))) with crash | present
    · rfl
    · cases present with
      | true => rfl
      | false =>
        apply ih
        intro d hd
        rcases h d hd with hmem | habsent
        · rcases List.mem_cons.mp hmem with rfl | hrest
          · exact Or.inr hanswer
          · exact Or.inl hrest
        · exact Or.inr habsent

theorem visit_extended (h : more ⊆ search.directories) (depth : Nat) (file : String)
    (found : List String) :
    ((visit (search.extended more) depth file found).run fs : Run (List String)) =
      (visit search depth file found).run fs := by
  induction depth generalizing file found with
  | zero => rfl
  | succ depth ih =>
    rw [visit_succ, visit_succ]
    apply run_bind_congr rfl
    intro names
    apply run_foldlM_congr
    intro found name
    apply run_bind_congr
    · apply resolve_extended
      intro d hd
      exact Or.inl (h hd)
    · intro target
      cases target with
      | none => rfl
      | some path =>
        by_cases hpath : path ∈ found
        · simp only [hpath, if_true]
        · simp only [hpath, if_false]
          exact ih path (found ++ [path])

/-- More directories to look in lose no header, as long as both scans are done: whatever the new
headers are, and however early they are found, the old ones are all found under the same paths. More
directories that are all known make no difference, neither to the headers and their order nor to a
failure. -/
theorem headersOf_extended (fs : FileSystem Id) (search : Search) (more : List String)
    (file : String) :
    (∀ found found', ((headersOf search file).run fs).ending = .done found →
      ((headersOf (search.extended more) file).run fs).ending = .done found' →
      found ⊆ found') ∧
    (more ⊆ search.directories →
      ((headersOf (search.extended more) file).run fs : Run (List String)) =
        (headersOf search file).run fs) := by
  constructor
  · intro found found' hfirst hsecond path hpath
    have hreached := (mem_headersOf_iff hfirst).mp hpath
    apply (mem_headersOf_iff hsecond).mpr
    exact TransGen.mono (fun a b => includes_extended more) file path hreached
  · intro hknown
    exact visit_extended hknown search.limit file []

/-- A source whose first header stands in a directory of its own, and includes a header that the
second one includes as well. -/
def scattered : Store :=
  (((Store.empty.insert (.ofString "main.c")
    (.ofString "#include \"late.h\"\n#include \"a.h\"\n")).insert
    (.ofString "inc/a.h") (.ofString "#include \"b.h\"\n")).insert
    (.ofString "inc/b.h") []).insert (.ofString "sys/late.h") (.ofString "#include \"b.h\"\n")

def scatteredSearch : Search where
  directories := ["inc"]
  renames := []
  limit := standardLimit

/-- With the second directory the shared header is found earlier, and still no header is lost. -/
theorem headersOf_extended_scattered :
    let scan (search : Search) : Run (List String) :=
      (headersOf search "main.c").run (frozen scattered)
    (scan scatteredSearch).ending = .done ["inc/a.h", "inc/b.h"] ∧
    (scan (scatteredSearch.extended ["sys"])).ending =
      .done ["sys/late.h", "inc/b.h", "inc/a.h"] ∧
    ["inc/a.h", "inc/b.h"] ⊆ ["sys/late.h", "inc/b.h", "inc/a.h"] ∧
    scan (scatteredSearch.extended ["inc", "inc"]) = scan scatteredSearch := by
  intro scan
  have hfirst : (scan scatteredSearch).ending = .done ["inc/a.h", "inc/b.h"] :=
    Ending.eq_done (by decide +kernel)
  have hsecond : (scan (scatteredSearch.extended ["sys"])).ending =
      .done ["sys/late.h", "inc/b.h", "inc/a.h"] := Ending.eq_done (by decide +kernel)
  obtain ⟨hkept, -⟩ := headersOf_extended (frozen scattered) scatteredSearch ["sys"] "main.c"
  obtain ⟨-, hsame⟩ := headersOf_extended (frozen scattered) scatteredSearch ["inc", "inc"] "main.c"
  exact ⟨hfirst, hsecond, hkept _ _ hfirst hsecond, hsame (by decide)⟩

end IncludeRules.Scan
