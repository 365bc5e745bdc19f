import IncludeRules.Proofs.Scan.Expansion
import IncludeRules.Proofs.Store.Filled
import IncludeRules.Proofs.Text.Blank

/-! The paths that a pattern stands for exist in a store. -/

namespace IncludeRules.Scan

open IncludeRules.Path

variable {s : Store} {pattern entry : String} {paths : List String} {part front : List Char}
  {c : Char}

/-- The directory that the directory part of a pattern stands for, as a path. -/
def listedIn (pattern : String) : Path :=
  .ofString (directoryOf (splitPattern pattern).1)

/-- The directory part of a pattern ends in a separator. -/
theorem isSeparator_of_getLast? (h : (splitPattern pattern).1.getLast? = some c) :
    isSeparator c = true := by
  rw [splitPattern, Text.splitAfterLast_fst] at h
  simpa using Text.getLast?_dropEndWhile h

theorem ends_in_slash (h : (splitPattern pattern).1.getLast? ≠ some '\\') :
    (splitPattern pattern).1 = [] ∨ (splitPattern pattern).1.getLast? = some '/' := by
  cases hlast : (splitPattern pattern).1.getLast? with
  | none => exact Or.inl (List.getLast?_eq_none_iff.mp hlast)
  | some c =>
    have hc := isSeparator_of_getLast? hlast
    rcases Bool.or_eq_true_iff.mp hc with hc | hc
    · exact Or.inr (congrArg some (eq_of_beq hc))
    · exact absurd (hlast.trans (congrArg some (eq_of_beq hc))) h

/-- The slash at the end of a directory part makes no difference. -/
theorem location_directoryOf (hpart : part.getLast? = some '/') :
    (Path.ofString (directoryOf part)).location = (Path.ofString (.ofList part)).location := by
  obtain ⟨front, rfl⟩ := List.getLast?_eq_some_iff.mp hpart
  by_cases hfront : front = []
  · subst hfront
    rfl
  · have hne : Octets.ofString (.ofList front) ≠ [] := by
      simpa [Octets.ofString_eq_nil_iff] using hfront
    have hdirectory : directoryOf (front ++ ['/']) = .ofList front := by
      simp [directoryOf, hfront]
    rw [hdirectory, String.ofList_append, Path.ofString, Path.ofString, Octets.ofString_append]
    exact (location_slash hne).symm

/-- After a slash an entry is found in the directory before the slash. -/
theorem location_after_slash (entry : String) (hpart : part.getLast? = some '/') :
    (Path.ofString (.ofList part ++ entry)).location =
      walk (Path.ofString (directoryOf part)).location (below (.ofString entry)) := by
  rw [location_directoryOf hpart]
  exact location_ofString_append (by simpa using hpart) entry

/-- What is spelled after the directory part is what is seen from the directory that was listed. -/
theorem location_spelled (hpart : part = [] ∨ part.getLast? = some '/')
    (hrooted : (Path.ofString entry).isRooted = false) :
    (Path.ofString (.ofList part ++ entry)).location =
      ((Path.ofString (directoryOf part)).join (.ofString entry)).location := by
  rw [location_join hrooted]
  rcases hpart with rfl | hslash
  · have hhere : (Path.ofString (directoryOf [])).location = [] := by decide +kernel
    rw [String.ofList_nil, String.empty_append, hhere]
    exact location_of_relative hrooted
  · exact location_after_slash entry hslash

/-- An entry that is spelled after a slash exists, and it can be read unless it is the root. -/
theorem present_spelled (hs : s.Filled) (hentry : entry ∈ s.entries (listedIn pattern))
    (hslash : (splitPattern pattern).1.getLast? ≠ some '\\') :
    s.present (.ofString (.ofList (splitPattern pattern).1 ++ entry)) = true ∧
      ((splitPattern pattern).1 = [] ∨ entry ≠ "/" →
        s.octets? (.ofString (.ofList (splitPattern pattern).1 ++ entry)) =
          s.octets? ((listedIn pattern).join (.ofString entry))) := by
  obtain ⟨hpresent, hrooted⟩ := hs.entries_cases hentry
  have hpart := ends_in_slash hslash
  rcases hrooted with hrooted | ⟨rfl, hdir⟩
  · have hlocation := location_spelled hpart hrooted
    exact ⟨(Store.present_of_location hlocation).trans hpresent,
      fun _ => Store.octets?_of_location hlocation⟩
  · rcases hpart with hpart | hpart
    · rw [hpart]
      exact ⟨hpresent, fun _ => rfl⟩
    · -- the root adds nothing to a directory part, so the directory itself is named again
      have hlocation := location_after_slash "/" hpart
      rw [← listedIn, hdir, show below (.ofString "/") = [] by decide +kernel] at hlocation
      refine ⟨by rw [Store.present, hlocation]; rfl, fun hreadable => ?_⟩
      rcases hreadable with hnone | hne
      · rw [hnone] at hpart
        cases hpart
      · exact absurd rfl hne

/-- Every path that a pattern stands for exists: the pattern itself, or an entry of the directory
that was listed, spelled with the directory part as it is written. Only a file name that is put
after a backslash names something else than the entry; what is put after a slash can be read as what
was listed, unless it is the root. -/
theorem present_of_expand (hs : s.Filled)
    (h : ((expand pattern).run Store.fileSystem s).1.ending = .done paths) :
    ∀ path ∈ paths,
      Pattern.hasWildcard (splitPattern pattern).2 = false ∧ path = pattern ∧
        s.present (.ofString path) = true ∨
      ∃ entry ∈ s.entries (listedIn pattern), path = .ofList (splitPattern pattern).1 ++ entry ∧
        s.present ((listedIn pattern).join (.ofString entry)) = true ∧
        ((splitPattern pattern).1.getLast? ≠ some '\\' →
          s.present (.ofString path) = true ∧
          ((splitPattern pattern).1 = [] ∨ entry ≠ "/" →
            s.octets? (.ofString path) =
              s.octets? ((listedIn pattern).join (.ofString entry)))) := by
  intro path hpath
  cases expand_done h with
  | literal plain found =>
    cases List.mem_singleton.mp hpath
    exact Or.inl ⟨plain, rfl, Except.ok.inj (congrArg Prod.fst found)⟩
  | nothing => cases hpath
  | listed wild parsed directory answered =>
    obtain ⟨entry, hentry, rfl⟩ := List.mem_map.mp (mem_sortFolded.mp hpath)
    obtain ⟨-, rfl⟩ := Store.answer_isDirectory_eq_iff.mp directory
    obtain ⟨-, rfl, -⟩ := Store.answer_entries_eq_iff.mp answered
    have hmem : entry ∈ s.entries (listedIn pattern) := (List.mem_filter.mp hentry).1
    exact Or.inr ⟨entry, hmem, rfl, (hs.entries_cases hmem).1, present_spelled hs hmem⟩

/-- A store with one file in a directory. -/
def oneSource : Store :=
  Store.empty.insert (.ofString "src/a.c") []

theorem filled_oneSource : oneSource.Filled :=
  .insert .empty _ _

theorem present_of_expand_detour :
    ((expand "lib/../src//?.c").run Store.fileSystem oneSource).1.ending =
        .done ["lib/../src//a.c"] ∧
      oneSource.present (.ofString "lib/../src//a.c") = true := by
  have hrun : ((expand "lib/../src//?.c").run Store.fileSystem oneSource).1.ending =
      .done ["lib/../src//a.c"] := Ending.eq_done (by decide +kernel)
  refine ⟨hrun, ?_⟩
  rcases present_of_expand filled_oneSource hrun _ List.mem_cons_self with
    ⟨-, -, hpresent⟩ | ⟨entry, -, -, -, hslash⟩
  · exact hpresent
  · exact (hslash (by decide +kernel)).1

/-- A store with a file in the place of the root. -/
def rootOnly : Store :=
  Store.empty.insert (.ofString "/") []

/-- What is put after a backslash need not exist, and a file in the place of the root cannot be read
as what is put after a slash. -/
theorem expand_misspelled :
    oneSource.Filled ∧
      ((expand "src\\*.c").run Store.fileSystem oneSource).1.ending = .done ["src\\a.c"] ∧
      oneSource.present (.ofString "src\\a.c") = false ∧
    rootOnly.Filled ∧
      ((expand "./*").run Store.fileSystem rootOnly).1.ending = .done [".//"] ∧
      rootOnly.octets? (.ofString "/") = some [] ∧ rootOnly.octets? (.ofString ".//") = none :=
  ⟨filled_oneSource, Ending.eq_done (by decide +kernel), by decide +kernel,
    .insert .empty _ _, Ending.eq_done (by decide +kernel), by decide +kernel, by decide +kernel⟩

end IncludeRules.Scan
