import IncludeRules.Proofs.Scan.Refusals
import IncludeRules.Proofs.Script.Deepening
import Mathlib.Data.List.Dedup

/-! How deep scans nest, and that they read every file that they list exactly once. -/

namespace IncludeRules.Scan

open Script
open Relation (TransGen)

variable {fs : FileSystem Id} {search : Search} {file path : String} {found : List String}
  {depth depth' limit : Nat} {s : Store}

/-- The same search with another bound on how deeply includes may nest. -/
def Search.within (search : Search) (limit : Nat) : Search :=
  { search with limit }

theorem scanName_deepens
    (ih : ∀ path found, Deepens (visit search depth path found) (visit search depth' path found))
    (found : List String) (name : String) :
    Deepens (scanName search depth found name) (scanName search depth' found name) := by
  apply deepens_bind (.refl (resolve (search.renamed name) search.directories))
  intro target
  cases target with
  | none => exact .refl _
  | some path =>
    by_cases hpath : path ∈ found
    · simp only [hpath, if_true]
      exact .refl _
    · simp only [hpath, if_false]
      exact ih path _

/-- A scan that may nest deeper goes on where it was given up, and does nothing else differently. -/
theorem visit_deepens (search : Search) (h : depth ≤ depth') (file : String)
    (found : List String) :
    Deepens (visit search depth file found) (visit search depth' file found) := by
  induction depth generalizing depth' file found with
  | zero => exact .givenUp file _
  | succ depth ih =>
    obtain ⟨rest, rfl⟩ : ∃ rest, depth' = rest + 1 := ⟨depth' - 1, by omega⟩
    have hdepth : depth ≤ rest := by omega
    rw [visit_succ, visit_succ]
    apply deepens_bind (.refl (namesIn file))
    intro names
    exact deepens_foldlM (scanName_deepens fun path found => ih hdepth path found) names found

theorem visit_within (search : Search) (limit depth : Nat) (file : String)
    (found : List String) :
    visit (search.within limit) depth file found = visit search depth file found := by
  induction depth generalizing file found with
  | zero => rfl
  | succ depth ih =>
    have hname : scanName (search.within limit) depth = scanName search depth := by
      funext found name
      simp only [scanName, ih]
      rfl
    rw [visit_succ, visit_succ, hname]

theorem headersOf_within (search : Search) (limit : Nat) (file : String) :
    headersOf (search.within limit) file = visit search limit file [] :=
  visit_within search limit limit file []

/-- Where a scan was not given up, the bound makes no difference to it. -/
theorem headersOf_course_within {σ : Type} {fs : FileSystem (StateM σ)} {state : σ}
    (h : limit ≤ depth)
    (hended : ((headersOf (search.within limit) file).course fs state).1.ending.Concluded) :
    (headersOf (search.within depth) file).course fs state =
      (headersOf (search.within limit) file).course fs state := by
  rw [headersOf_within] at hended ⊢
  rw [headersOf_within]
  exact (visit_deepens search h file []).course hended

/-- A scan that is answered is done, or it failed at a file that it could not read. -/
theorem done_or_unreadable (h : ((headersOf search file).course fs).ending.Returned) :
    (∃ found, ((headersOf search file).course fs).ending = .done found) ∨
      ∃ path cause, ((headersOf search file).course fs).ending =
        .failed (.unreadable path cause) := by
  cases hending : ((headersOf search file).course fs).ending with
  | done found => exact Or.inl ⟨found, rfl⟩
  | failed e =>
    obtain ⟨-, path, cause, -, -, rfl⟩ := refused_of_failed hending h
    exact Or.inr ⟨path, cause, rfl⟩
  | crashed crash => exact absurd hending (h.answered crash)

/-- A scan that is done has read the file, and then what it found in the order in which it found
it. -/
theorem reads_of_done (h : ((headersOf search file).course fs).ending = .done found) :
    Reads ((headersOf search file).course fs).events (file :: found) := by
  have hscan := headersOf_scanned fs search file
  generalize (headersOf search file).course fs = r at h hscan ⊢
  cases hscan with
  | done new reads =>
    cases h
    exact reads
  | refused | nested | crashed => cases h

theorem headersOf_course_frozen (search : Search) (file : String) (s : Store) :
    (headersOf search file).course Store.fileSystem s =
      ((headersOf search file).course (frozen s), s) :=
  Store.course_frozen (visit_looks search search.limit file []) s

/-- One level more than there are candidates is enough: a deeper nesting would have to enter some
candidate twice. -/
theorem returned_within (h : (candidates s search).dedup.length < limit) :
    ((headersOf (search.within limit) file).course (frozen s)).ending.Returned := by
  have hcandidates : ∀ p, TransGen (Includes (frozen s) (search.within limit)) file p →
      p ∈ (candidates s search).dedup := by
    intro p hreached
    apply List.mem_dedup.mpr
    exact mem_candidates_of_reached hreached
  have hreturned := returned_of_few (Store.frozen_answers s) hcandidates h
  rw [ending_course] at hreturned
  exact hreturned

/-- Every scan of a store comes to an end. It nests at most one level deeper than there are
different paths that the include lines of all files may stand for: whatever more is allowed, it
takes the same course. A scan that is done has read the file and then each of its headers, in the
order in which they are listed. -/
theorem headersOf_ends_within_candidates (s : Store) (search : Search) (file : String) :
    let levels := (candidates s search).dedup.length + 1
    let scan (limit : Nat) := (headersOf (search.within limit) file).course Store.fileSystem s
    ((∃ found, (scan levels).1.ending = .done found) ∨
      ∃ path cause, (scan levels).1.ending = .failed (.unreadable path cause)) ∧
    (∀ limit, levels ≤ limit → scan limit = scan levels) ∧
    ∀ limit found, (scan limit).1.ending = .done found →
      Reads (scan limit).1.events (file :: found) := by
  intro levels scan
  have hfrozen : ∀ limit, scan limit =
      ((headersOf (search.within limit) file).course (frozen s), s) := by
    intro limit
    exact headersOf_course_frozen (search.within limit) file s
  have hreturned : (scan levels).1.ending.Returned := by
    rw [hfrozen]
    exact returned_within (Nat.lt_succ_self _)
  refine ⟨?_, ?_, ?_⟩
  · rw [hfrozen] at hreturned ⊢
    exact done_or_unreadable hreturned
  · intro limit hlimit
    exact headersOf_course_within hlimit hreturned.nested
  · intro limit found hdone
    rw [hfrozen] at hdone ⊢
    exact reads_of_done hdone

/-- With six candidates seven levels are enough. The scan of this source takes three. -/
theorem headersOf_ends_within_candidates_circle :
    let scan (limit : Nat) :=
      (headersOf (circleSearch.within limit) "main.c").course Store.fileSystem circle
    (candidates circle circleSearch).dedup.length = 6 ∧
    scan standardLimit = scan 7 ∧
    Reads (scan 3).1.events ["main.c", "inc/a.h", "inc/b.h", "main.c"] := by
  intro scan
  have hsix : (candidates circle circleSearch).dedup.length = 6 := by decide +kernel
  have hthree : (scan 3).1.ending = .done ["inc/a.h", "inc/b.h", "main.c"] :=
    Ending.eq_done (by decide +kernel)
  obtain ⟨-, hlimits, hreads⟩ := headersOf_ends_within_candidates circle circleSearch "main.c"
  rw [hsix] at hlimits
  exact ⟨hsix, hlimits standardLimit (by decide), hreads 3 _ hthree⟩

end IncludeRules.Scan
