import IncludeRules.Proofs.Scan.Endings
import IncludeRules.Proofs.Scan.Looks
import IncludeRules.Proofs.Store.Entries
import IncludeRules.Proofs.Store.Frozen
import Mathlib.Data.List.Perm.Subperm

/-! Scans fail when a file that they reach is refused, and report the first one. -/

namespace IncludeRules

/-- A scan came to an end of its own: no call went without an answer, and it was not given up. -/
structure Ending.Returned {α : Type} (e : Ending α) : Prop where
  answered : ∀ crash, e ≠ .crashed crash
  nested : ∀ file, e ≠ .failed (.nestedTooDeep file)

namespace Scan

open Script
open Relation (ReflTransGen TransGen)

variable {fs : FileSystem Id} {search : Search} {file path path' cause cause' a b : String}
  {earlier earlier' found paths : List String} {s : Store}

/-- A path is refused, and all that comes earlier can be read: the file itself, and then what a
depth-first walk over the include graph finds before this path. -/
structure FirstRefused (fs : FileSystem Id) (search : Search) (file : String)
    (earlier : List String) (path cause : String) : Prop where
  order : ∃ found, Underway fs search (namesOf fs file) [] found ∧ file :: found = earlier ++ [path]
  readable : ∀ p ∈ earlier, Readable fs p
  refused : Refuses fs path cause

theorem not_readable_of_refuses (h : Refuses fs path cause) : ¬Readable fs path := by
  rintro ⟨contents, hread⟩
  cases h.symm.trans hread

theorem FirstRefused.reached (h : FirstRefused fs search file earlier path cause) :
    ReflTransGen (Includes fs search) file path := by
  obtain ⟨found, hwalk, hlast⟩ := h.order
  have hmem : path ∈ file :: found := by simp [hlast]
  rcases List.mem_cons.mp hmem with rfl | hmem
  · exact .refl
  · have hwhite := (mem_underway hwalk hmem).resolve_left List.not_mem_nil
    exact (whitePath_file_iff.mp hwhite).to_reflTransGen

/-- Of two paths that are refused first, none is found before the other. -/
theorem FirstRefused.not_before {found' : List String}
    (h : FirstRefused fs search file earlier path cause)
    (h' : FirstRefused fs search file earlier' path' cause')
    (hlast : file :: found = earlier ++ [path]) (hlast' : file :: found' = earlier' ++ [path'])
    (hfound : found <+: found') : earlier ++ [path] = earlier' ++ [path'] := by
  have hbefore : earlier ++ [path] <+: earlier' ++ [path'] := by
    rw [← hlast, ← hlast']
    exact (List.prefix_cons_inj file).mpr hfound
  rcases List.prefix_concat_iff.mp hbefore with hsame | hearlier
  · exact hsame
  · have hmem : path ∈ earlier' := hearlier.subset (by simp)
    exact absurd (h'.readable path hmem) (not_readable_of_refuses h.refused)

/-- Only one path is refused first. -/
theorem FirstRefused.unique (h : FirstRefused fs search file earlier path cause)
    (h' : FirstRefused fs search file earlier' path' cause') :
    earlier = earlier' ∧ path = path' ∧ cause = cause' := by
  have hsame : earlier ++ [path] = earlier' ++ [path'] := by
    obtain ⟨found, hwalk, hlast⟩ := h.order
    obtain ⟨found', hwalk', hlast'⟩ := h'.order
    rcases underway_total hwalk hwalk' with hbefore | hbefore
    · exact h.not_before h' hlast hlast' hbefore
    · exact (h'.not_before h hlast' hlast hbefore).symm
  obtain ⟨rfl, hpath⟩ := List.append_inj' hsame rfl
  cases hpath
  cases h.refused.symm.trans h'.refused
  exact ⟨rfl, rfl, rfl⟩

theorem headersOf_scanned (fs : FileSystem Id) (search : Search) (file : String) :
    Scanned fs search search.limit [file] (namesOf fs file) []
      ((headersOf search file).course fs) :=
  visit_scanned fs search search.limit file []

/-- A scan that fails was refused a path, and had read what comes earlier. -/
theorem refused_of_failed {e : Failure}
    (h : ((headersOf search file).course fs).ending = .failed e)
    (hreturned : ((headersOf search file).course fs).ending.Returned) :
    ∃ earlier path cause, FirstRefused fs search file earlier path cause ∧
      Reads ((headersOf search file).course fs).events (earlier ++ [path]) ∧
      e = .unreadable path cause := by
  have hscan := headersOf_scanned fs search file
  generalize (headersOf search file).course fs = r at h hreturned hscan ⊢
  cases hscan with
  | refused new earlier reads last underway readable refused =>
    cases h
    refine ⟨earlier, _, _, ⟨⟨new, underway, last⟩, readable, refused⟩, ?_, rfl⟩
    rw [← last]
    exact reads
  | nested => exact absurd rfl (hreturned.nested _)
  | done | crashed => cases h

/-- A scan that succeeds has read all that the file reaches. -/
theorem readable_of_done
    (h : ((headersOf search file).course fs).ending = .done found)
    (hreach : ReflTransGen (Includes fs search) file path) : Readable fs path := by
  have hscan := headersOf_scanned fs search file
  have hwalk := visit_done ((ending_course _).trans h)
  generalize (headersOf search file).course fs = r at h hscan
  cases hscan with
  | done new _ readable =>
    cases h
    apply readable
    rcases Relation.reflTransGen_iff_eq_or_transGen.mp hreach with rfl | hreach
    · exact List.mem_cons_self
    · refine List.mem_cons_of_mem _ ?_
      exact (mem_walk_iff hwalk path).mpr (Or.inr (whitePath_file_iff.mpr hreach))
  | refused | nested | crashed => cases h

/-- A scan that comes to an end fails exactly when it reaches a path that is refused. -/
theorem failed_iff_refused (h : ((headersOf search file).course fs).ending.Returned) :
    (∃ e, ((headersOf search file).course fs).ending = .failed e) ↔
      ∃ path cause, ReflTransGen (Includes fs search) file path ∧ Refuses fs path cause := by
  constructor
  · rintro ⟨e, hfailed⟩
    obtain ⟨_, path, cause, hfirst, -, -⟩ := refused_of_failed hfailed h
    exact ⟨path, cause, hfirst.reached, hfirst.refused⟩
  · rintro ⟨path, cause, hreach, hrefused⟩
    cases hending : ((headersOf search file).course fs).ending with
    | done found =>
      have hreadable := readable_of_done hending hreach
      exact absurd hreadable (not_readable_of_refuses hrefused)
    | failed e => exact ⟨e, rfl⟩
    | crashed crash => exact absurd hending (h.answered crash)

/-- Where fewer paths are reached than includes may nest, a scan comes to an end: a chain of
includes that is as long as the limit would have to meet one path twice. -/
theorem returned_of_few (hanswers : ∀ c, ∃ answer, fs.answer c = .ok answer)
    (hpaths : ∀ p, TransGen (Includes fs search) file p → p ∈ paths)
    (hfew : paths.length < search.limit) :
    ((headersOf search file).run fs).ending.Returned := by
  refine ⟨not_crashed hanswers _, fun deep hdeep => ?_⟩
  have hscan := headersOf_scanned fs search file
  rw [ending_course] at hdeep
  generalize (headersOf search file).course fs = r at hdeep hscan
  cases hscan with
  | nested chain length nodup leads =>
    have hsub := nodup.subperm fun p hp => hpaths p (whitePath_file_iff.mp (leads p hp))
    have hle := hsub.length_le
    omega
  | done | refused | crashed => cases hdeep

/-- The paths that the include lines of all files in a store may stand for. -/
def candidates (s : Store) (search : Search) : List String :=
  s.files.flatMap fun file => (includedNames (Octets.lenient file.2)).flatMap fun name =>
    search.directories.map (candidate · (search.renamed name))

theorem mem_candidates (h : Includes (frozen s) search a b) : b ∈ candidates s search := by
  obtain ⟨name, hname, htarget⟩ := h
  have hb := List.mem_of_find?_eq_some htarget
  simp only [namesOf, Store.frozen_read, Store.read] at hname
  cases hoctets : s.octets? (.ofString a) with
  | none => simp [hoctets] at hname
  | some contents =>
    simp only [hoctets] at hname
    obtain ⟨before, after, hfiles, -⟩ := List.lookup_eq_some_iff.mp hoctets
    have hfile : ((Path.ofString a).location, contents) ∈ s.files := by simp [hfiles]
    exact List.mem_flatMap.mpr ⟨_, hfile, List.mem_flatMap.mpr ⟨name, hname, hb⟩⟩

theorem mem_candidates_of_reached (h : TransGen (Includes (frozen s) search) a b) :
    b ∈ candidates s search := by
  obtain ⟨_, -, edge⟩ := TransGen.tail'_iff.mp h
  exact mem_candidates edge

/-- What is reached exists. -/
theorem present_of_reached (h : TransGen (Includes (frozen s) search) a b) :
    s.present (.ofString b) = true := by
  obtain ⟨_, -, _, -, htarget⟩ := TransGen.tail'_iff.mp h
  have hhas : has (frozen s) b = true := List.find?_some htarget
  exact hhas

theorem refuses_frozen_iff :
    (∃ cause, Refuses (frozen s) path cause) ↔ s.octets? (.ofString path) = none := by
  constructor
  · rintro ⟨cause, hrefused⟩
    have hread : s.read (.ofString path) = .error cause := Except.ok.inj hrefused
    rw [Store.read] at hread
    split at hread
    · cases hread
    · assumption
  · intro hnone
    refine ⟨(Path.ofString path).display ++ ": no such file", ?_⟩
    rw [Refuses, Store.frozen_read, Store.read, hnone]

theorem returned_frozen (h : (candidates s search).length < search.limit) :
    ((headersOf search file).run (frozen s)).ending.Returned :=
  returned_of_few (Store.frozen_answers s) (fun _ => mem_candidates_of_reached) h

/-- A store refuses what it does not hold. -/
theorem failed_frozen_iff (h : (candidates s search).length < search.limit) :
    (∃ e, ((headersOf search file).run (frozen s)).ending = .failed e) ↔
      s.octets? (.ofString file) = none ∨ ∃ path, TransGen (Includes (frozen s) search) file path ∧
        s.octets? (.ofString path) = none ∧ s.isDirectory (.ofString path) = true := by
  have hreturned : ((headersOf search file).run (frozen s)).ending.Returned := returned_frozen h
  rw [ending_course] at hreturned ⊢
  rw [failed_iff_refused hreturned]
  constructor
  · rintro ⟨path, cause, hreach, hrefused⟩
    have hnone := refuses_frozen_iff.mp ⟨cause, hrefused⟩
    rcases Relation.reflTransGen_iff_eq_or_transGen.mp hreach with rfl | hreach
    · exact Or.inl hnone
    · have hpresent := present_of_reached hreach
      exact Or.inr ⟨path, hreach, hnone, Store.isDirectory_of_present hpresent hnone⟩
  · rintro (hnone | ⟨path, hreach, hnone, -⟩)
    · obtain ⟨cause, hrefused⟩ := refuses_frozen_iff.mpr hnone
      exact ⟨file, cause, .refl, hrefused⟩
    · obtain ⟨cause, hrefused⟩ := refuses_frozen_iff.mpr hnone
      exact ⟨path, cause, hreach.to_reflTransGen, hrefused⟩

/-- A scan that comes to an end fails exactly when the file or something that it reaches is refused.
It reports the first such path of a depth-first walk, after it has read all that comes earlier. It
does come to an end when it is answered and fewer paths are reached than includes may nest. In a
store it fails exactly when the file is not there or a name stands for a mere directory. -/
theorem headersOf_fails_iff_refused (search : Search) (file : String) :
    (∀ fs : FileSystem Id, ((headersOf search file).run fs).ending.Returned →
      ((∃ e, ((headersOf search file).run fs).ending = .failed e) ↔
        ∃ path cause, ReflTransGen (Includes fs search) file path ∧ Refuses fs path cause) ∧
      ∀ e, ((headersOf search file).run fs).ending = .failed e →
        ∃ earlier path cause, FirstRefused fs search file earlier path cause ∧
          Reads ((headersOf search file).course fs).events (earlier ++ [path]) ∧
          e.message = "failed to read " ++ path ++ ": " ++ cause) ∧
    (∀ (fs : FileSystem Id) (paths : List String), (∀ c, ∃ answer, fs.answer c = .ok answer) →
      (∀ p, TransGen (Includes fs search) file p → p ∈ paths) → paths.length < search.limit →
      ((headersOf search file).run fs).ending.Returned) ∧
    ∀ s : Store, (candidates s search).length < search.limit →
      ((∃ e, ((headersOf search file).run Store.fileSystem s).1.ending = .failed e) ↔
        s.octets? (.ofString file) = none ∨
          ∃ path, TransGen (Includes (frozen s) search) file path ∧
            s.octets? (.ofString path) = none ∧ s.isDirectory (.ofString path) = true) := by
  refine ⟨fun fs hreturned => ?_, fun fs paths => returned_of_few, fun s hfew => ?_⟩
  · rw [ending_course] at hreturned ⊢
    refine ⟨failed_iff_refused hreturned, fun e hfailed => ?_⟩
    obtain ⟨earlier, path, cause, hfirst, hreads, rfl⟩ := refused_of_failed hfailed hreturned
    exact ⟨earlier, path, cause, hfirst, hreads, rfl⟩
  · rw [headersOf, Store.run_frozen (visit_looks search search.limit file [])]
    exact failed_frozen_iff hfew

/-- A source with two headers. The first one includes what is only a directory. -/
def lost : Store :=
  (((Store.empty.insert (.ofString "main.c")
    (.ofString "#include \"a.h\"\n#include \"late.h\"\n")).insert
    (.ofString "a.h") (.ofString "#include \"sub\"\n")).insert
    (.ofString "late.h") []).insert (.ofString "sub/b.h") []

def lostSearch : Search where
  directories := [""]
  renames := []
  limit := standardLimit

theorem firstRefused_lost :
    FirstRefused (frozen lost) lostSearch "main.c" ["main.c", "a.h"] "sub" "sub: no such file" where
  order := by
    have hmain : namesOf (frozen lost) "main.c" = ["a.h", "late.h"] := by decide +kernel
    have hheader : namesOf (frozen lost) "a.h" = ["sub"] := by decide +kernel
    have hfirst : target? (frozen lost) lostSearch "a.h" = some "a.h" := by decide +kernel
    have hsecond : target? (frozen lost) lostSearch "sub" = some "sub" := by decide +kernel
    refine ⟨["a.h", "sub"], ?_, rfl⟩
    rw [hmain]
    refine .inside hfirst List.not_mem_nil ?_
    rw [hheader]
    exact .inside hsecond (by decide) (.stop _ _)
  readable := by
    intro p hp
    rcases List.mem_pair.mp hp with rfl | rfl
    · exact ⟨_, rfl⟩
    · exact ⟨_, rfl⟩
  refused := by
    have hnone : lost.octets? (.ofString "sub") = none := by decide +kernel
    have htext : (Path.ofString "sub").display = "sub" := by decide +kernel
    rw [Refuses, Store.frozen_read, Store.read, hnone]
    dsimp only
    rw [htext]
    rfl

/-- The scan of the source reads the first header, and fails before it comes to the second one. -/
theorem headersOf_lost_fails :
    ∃ e, ((headersOf lostSearch "main.c").run Store.fileSystem lost).1.ending = .failed e ∧
      e.message = "failed to read sub: sub: no such file" ∧
      Reads ((headersOf lostSearch "main.c").course (frozen lost)).events
        ["main.c", "a.h", "sub"] := by
  obtain ⟨hreport, hreturns, hstore⟩ := headersOf_fails_iff_refused lostSearch "main.c"
  have hfew : (candidates lost lostSearch).length < lostSearch.limit := by decide +kernel
  have hreturned := hreturns (frozen lost) (candidates lost lostSearch) (Store.frozen_answers lost)
    (fun _ => mem_candidates_of_reached) hfew
  have hreached : TransGen (Includes (frozen lost) lostSearch) "main.c" "sub" :=
    (Relation.reflTransGen_iff_eq_or_transGen.mp firstRefused_lost.reached).resolve_left (by decide)
  obtain ⟨e, hfailed⟩ := (hstore lost hfew).mpr
    (Or.inr ⟨"sub", hreached, by decide +kernel, by decide +kernel⟩)
  have hfrozen : ((headersOf lostSearch "main.c").run (frozen lost)).ending = .failed e := by
    rw [headersOf, Store.run_frozen (visit_looks ..)] at hfailed
    exact hfailed
  obtain ⟨earlier, path, cause, hfirst, hreads, hmessage⟩ :=
    (hreport (frozen lost) hreturned).2 e hfrozen
  obtain ⟨rfl, rfl, rfl⟩ := firstRefused_lost.unique hfirst
  exact ⟨e, hfailed, hmessage, hreads⟩

end Scan

end IncludeRules
