import IncludeRules.Proofs.Pattern.Hidden
import IncludeRules.Proofs.Script.Stateful
import IncludeRules.Scan.Expand
import IncludeRules.Store

/-! What an expanded pattern stands for, on any file system. -/

namespace IncludeRules.Scan

open Script

variable {σ : Type} {fs : FileSystem (StateM σ)} {s : σ} {pattern path : String}
  {paths : List String}

/-- How a pattern is expanded when all goes well. A pattern without wildcards stands for itself if
it exists; one with wildcards stands for the entries it matches. -/
inductive Expands (fs : FileSystem (StateM σ)) (s : σ) (pattern : String) : List String → Prop
  | literal {t : σ} (plain : Pattern.hasWildcard (splitPattern pattern).2 = false)
    (found : fs.answer (.present (.ofString pattern)) s = (.ok true, t)) :
    Expands fs s pattern [pattern]
  | nothing : Expands fs s pattern []
  | listed {p : Pattern} {t u : σ} {entries : List String}
    (wild : Pattern.hasWildcard (splitPattern pattern).2 = true)
    (parsed : Pattern.parse (splitPattern pattern).2 = .ok p)
    (directory : fs.answer (.isDirectory (.ofString (directoryOf (splitPattern pattern).1))) s =
      (.ok true, t))
    (answered : fs.answer (.entries (.ofString (directoryOf (splitPattern pattern).1))) t =
      (.ok (.ok entries), u)) :
    Expands fs s pattern
      (sortFolded ((entries.filter p.accepts).map (.ofList (splitPattern pattern).1 ++ ·)))

theorem mem_sortFolded : path ∈ sortFolded paths ↔ path ∈ paths :=
  List.mem_mergeSort

theorem expand_done (h : ((expand pattern).run fs s).1.ending = .done paths) :
    Expands fs s pattern paths := by
  unfold expand at h
  dsimp only at h
  split at h
  · cases h
  split at h
  · next hplain =>
    obtain ⟨found, t, hfound, h⟩ := run_call_done h
    cases found with
    | false =>
      cases h
      exact .nothing
    | true =>
      cases h
      exact .literal (by simpa using hplain) hfound
  · next hwild =>
    obtain ⟨directory, t, hdirectory, h⟩ := run_call_done h
    cases directory with
    | false =>
      cases h
      exact .nothing
    | true =>
      cases hparse : Pattern.parse (splitPattern pattern).2 with
      | error e =>
        rw [hparse] at h
        cases h
      | ok p =>
        rw [hparse] at h
        obtain ⟨answer, u, hentries, h⟩ := run_call_done h
        cases answer with
        | error cause => cases h
        | ok entries =>
          cases h
          exact .listed (by simpa using hwild) hparse hdirectory hentries

/-- A hidden entry, one that starts with a dot, is matched only by a name part in which the dot is
written. One star may stand before the dot; it stands for nothing then. -/
theorem dot_written_of_expand (hwild : Pattern.hasWildcard (splitPattern pattern).2 = true)
    (h : ((expand pattern).run fs s).1.ending = .done paths) :
    ∀ path ∈ paths, ∃ entry : String, path = .ofList (splitPattern pattern).1 ++ entry ∧
      (entry.toList.head? = some '.' → ∃ rest p,
        ((splitPattern pattern).2 = '.' :: rest ∨ (splitPattern pattern).2 = '*' :: '.' :: rest) ∧
          Pattern.parse ('.' :: rest) = .ok p ∧ p.accepts entry = true) := by
  intro path hpath
  cases expand_done h with
  | literal plain => cases plain.symm.trans hwild
  | nothing => cases hpath
  | listed _ parsed =>
    obtain ⟨entry, hentry, rfl⟩ := List.mem_map.mp (mem_sortFolded.mp hpath)
    have haccepts := (List.mem_filter.mp hentry).2
    refine ⟨entry, rfl, fun hhidden => ?_⟩
    obtain ⟨rest, q, hname, hq, hsame⟩ := Pattern.accepts_hidden parsed haccepts hhidden
    exact ⟨rest, q, hname, hq, (hsame entry hhidden).symm.trans haccepts⟩

/-- A directory with one file, which is hidden. -/
def hiddenOnly : Store :=
  Store.empty.insert (.ofString "src/.c") []

theorem dot_written_of_expand_bracket :
    ((expand "src/.[a-d]").run Store.fileSystem hiddenOnly).1.ending = .done ["src/.c"] ∧
      ∀ path ∈ ["src/.c"], ∃ entry : String,
        path = .ofList (splitPattern "src/.[a-d]").1 ++ entry ∧
        (entry.toList.head? = some '.' → ∃ rest p,
          ((splitPattern "src/.[a-d]").2 = '.' :: rest ∨
            (splitPattern "src/.[a-d]").2 = '*' :: '.' :: rest) ∧
          Pattern.parse ('.' :: rest) = .ok p ∧ p.accepts entry = true) := by
  have hrun : ((expand "src/.[a-d]").run Store.fileSystem hiddenOnly).1.ending = .done ["src/.c"] :=
    Ending.eq_done (by decide +kernel)
  exact ⟨hrun, dot_written_of_expand (by decide +kernel) hrun⟩

/-- A star before a dot lets a hidden entry through. -/
theorem expand_star_hidden :
    Pattern.hasWildcard (splitPattern "src/*.c").2 = true ∧
      ((expand "src/*.c").run Store.fileSystem hiddenOnly).1.ending = .done ["src/" ++ ".c"] ∧
      (splitPattern "src/*.c").2.head? ≠ some '.' :=
  ⟨by decide +kernel, Ending.eq_done (by decide +kernel), by decide +kernel⟩

end IncludeRules.Scan
