import IncludeRules.Proofs.Path.Join
import IncludeRules.Proofs.Script.Stateful
import IncludeRules.Scan.Sources
import IncludeRules.Store
import Mathlib.Data.List.Basic

/-! What the start directory of a scanner does to the paths that are reported. -/

namespace IncludeRules

namespace Path

/-- A path without the slashes at its start. -/
def unrooted (p : Path) : Path :=
  ⟨p.octets.dropWhile (· == slash)⟩

theorem isRooted_unrooted (p : Path) : p.unrooted.isRooted = false := by
  refine beq_eq_false_iff_ne.mpr fun hhead => ?_
  change (p.octets.dropWhile (· == slash)).head? = some slash at hhead
  have hnot := List.head?_dropWhile_not (· == slash) p.octets
  rw [hhead] at hnot
  simp at hnot

/-- A path that is not rooted stays itself. -/
theorem unrooted_of_relative {p : Path} (h : p.isRooted = false) : p.unrooted = p := by
  obtain ⟨octets⟩ := p
  cases octets with
  | nil => rfl
  | cons b rest =>
    have hb : (b == slash) = false := by simpa [isRooted] using h
    rw [unrooted, List.dropWhile_cons_of_neg (by simp [hb])]

/-- What a spelling adds to a directory is the same with slashes before it. -/
theorem location_join_unrooted (dir name : Path) :
    (dir.join name.unrooted).location = walk dir.location (below name.octets) := by
  rw [location_join (isRooted_unrooted name), unrooted, below_dropWhile_slash]

end Path

namespace Scan

open IncludeRules.Path Script

/-- A source as its pattern spells it, and the headers as they were looked up. -/
structure Found where
  source : String
  headers : List String

def Found.paths (f : Found) : List String :=
  f.source :: f.headers

/-- The rule that reports what was found. -/
def Found.rule (scanner : Scanner) (f : Found) : Rule where
  object := objectName f.source scanner.objectSuffix
  source := some (shorten scanner.startDirectory f.source)
  headers := f.headers.map (shorten scanner.startDirectory)

def findFrom (scanner : Scanner) (source : String) : Script Found := do
  let headers ← headersOf scanner.search source
  Script.notify (.scanned source headers.length)
  return ⟨source, headers⟩

/-- What all patterns lead to, before it is reported. -/
def findAll (scanner : Scanner) (patterns : List String) : Script (List Found) := do
  let founds ← patterns.mapM fun pattern => do
    let sources ← expand pattern
    sources.mapM (findFrom scanner)
  return founds.flatten

variable {σ : Type} {fs : FileSystem (StateM σ)} {s : σ} {scanner : Scanner}
  {start rest path : String} {patterns : List String} {rules : List Rule}

theorem mapM_map_result {m : Type → Type} [Monad m] [LawfulMonad m] {α β γ : Type} (g : β → γ)
    (f : α → m β) (l : List α) : (l.mapM fun a => g <$> f a) = List.map g <$> l.mapM f := by
  induction l with
  | nil => simp
  | cons a l ih => simp [ih]

theorem ruleOf_eq (scanner : Scanner) :
    ruleOf scanner = fun source => Found.rule scanner <$> findFrom scanner source := by
  funext source
  simp [ruleOf, findFrom, Found.rule]

/-- A scan reports what it finds, and does nothing else with it. -/
theorem find_eq (scanner : Scanner) (patterns : List String) :
    find scanner patterns = List.map (Found.rule scanner) <$> findAll scanner patterns := by
  have hpattern (pattern : String) :
      (expand pattern >>= fun sources => sources.mapM (ruleOf scanner)) =
        List.map (Found.rule scanner) <$>
          (expand pattern >>= fun sources => sources.mapM (findFrom scanner)) := by
    rw [map_bind]
    simp only [ruleOf_eq, mapM_map_result]
  have hflatten : List.flatten ∘ List.map (List.map (Found.rule scanner)) =
      List.map (Found.rule scanner) ∘ List.flatten := by
    funext founds
    exact List.map_flatten.symm
  simp only [find, findAll, hpattern, mapM_map_result, bind_pure_comp]
  rw [← comp_map, ← comp_map, hflatten]

/-- Whether the start directory ends where a part of a path ends, when `rest` follows it there. -/
def EndsPart (start rest : String) : Prop :=
  start.toList.getLast? = some '/' ∨ rest = "" ∨ rest.toList.head? = some '/'

/-- How a path is reported: as it is, or by what is left of it when the text of the start directory
is taken away. Where that text ends with a part of the path, what is left leads from the start
directory to the file that the path names; a rooted rest does without the slashes at its start. -/
inductive Reports (start path : String) : String → Prop
  | whole : Reports start path path
  | rest {rest : String} (taken : path = start ++ rest)
    (leads : EndsPart start rest →
      ((Path.ofString start).join (Path.ofString rest).unrooted).location =
        (Path.ofString path).location)
    (relative : EndsPart start rest → (Path.ofString rest).isRooted = false →
      ((Path.ofString start).join (Path.ofString rest)).location =
        (Path.ofString path).location) :
    Reports start path rest

/-- A path spelled with plain slashes. -/
def plain (path : String) : String :=
  .ofList (path.toList.map fun c => if c == '\\' then '/' else c)

theorem plain_eq_self (h : '\\' ∉ path.toList) : plain path = path := by
  have hchars : path.toList.map (fun c => if c == '\\' then '/' else c) = path.toList := by
    refine (List.map_congr_left fun c hc => ?_).trans (List.map_id _)
    have hne : c ≠ '\\' := fun heq => h (heq ▸ hc)
    simp [hne]
  rw [plain, hchars, String.ofList_toList]

/-- The text of the start directory is taken away from the plain path where the path begins with
it. -/
theorem shorten_plain_cases (start path : String) :
    shorten start path = plain path ∧ (start ≠ "" → ¬start.toList <+: (plain path).toList) ∨
      start ≠ "" ∧ plain path = start ++ shorten start path := by
  simp only [shorten, plain, String.toList_ofList]
  split
  · next rest hrest =>
    have hpath := List.isPrefixOf?_eq_some_iff_append_eq.mp hrest
    split
    · next hstart => exact Or.inl ⟨rfl, fun hne => absurd hstart hne⟩
    · next hstart =>
      refine Or.inr ⟨hstart, String.toList_injective ?_⟩
      rw [String.toList_append, String.toList_ofList, String.toList_ofList, hpath]
  · next hnone =>
    refine Or.inl ⟨rfl, fun _ hprefix => ?_⟩
    obtain ⟨rest, hrest⟩ := hprefix
    cases hnone.symm.trans (List.isPrefixOf?_eq_some_iff_append_eq.mpr hrest)

/-- A path with plain slashes is reported as it is, or the text of the start directory is taken away
from it. -/
theorem shorten_cases (h : '\\' ∉ path.toList) :
    shorten start path = path ∨ start ≠ "" ∧ path = start ++ shorten start path := by
  have hcases := shorten_plain_cases start path
  rw [plain_eq_self h] at hcases
  exact hcases.imp_left And.left

/-- What follows the start directory leads from there to where the path leads. -/
theorem location_join_rest (hstart : start ≠ "") (h : EndsPart start rest) :
    ((Path.ofString start).join (Path.ofString rest).unrooted).location =
      (Path.ofString (start ++ rest)).location := by
  rw [location_join_unrooted]
  rcases h with h | h | h
  · exact (location_ofString_append h rest).symm
  · subst h
    rw [String.append_empty]
    exact walk_nil _
  · obtain ⟨later, hrest⟩ := List.head?_eq_some_iff.mp h
    have hoctets : Octets.ofString rest = slash :: later.flatMap String.utf8EncodeChar := by
      rw [Octets.ofString, hrest]
      rfl
    have hne : Octets.ofString start ≠ [] := mt Octets.ofString_eq_nil_iff.mp hstart
    rw [Path.ofString, Path.ofString, Path.ofString, Octets.ofString_append, hoctets, below_slash,
      location_append, location_slash hne]

/-- What a run reports is what it finds, rule by rule. -/
theorem find_done (h : ((find scanner patterns).run fs s).1.ending = .done rules) :
    ∃ founds, ((findAll scanner patterns).run fs s).1.ending = .done founds ∧
      rules = founds.map (Found.rule scanner) := by
  rw [find_eq, map_eq_pure_bind] at h
  obtain ⟨founds, t, hfounds, -, h⟩ := run_bind_done h
  cases h
  exact ⟨founds, hfounds, rfl⟩

theorem shorten_reports (h : '\\' ∉ path.toList) : Reports start path (shorten start path) := by
  rcases shorten_cases h with hkept | ⟨hstart, hpath⟩
  · rw [hkept]
    exact .whole
  · have hleads (hends : EndsPart start (shorten start path)) :=
      (location_join_rest hstart hends).trans (congrArg (location ∘ Path.ofString) hpath.symm)
    refine .rest hpath hleads fun hends hrooted => ?_
    exact unrooted_of_relative hrooted ▸ hleads hends

/-- Every path with plain slashes that a scan finds, for a source or for a header, is reported as it
is or by what follows the start directory in it. -/
theorem find_shortened (h : ((find scanner patterns).run fs s).1.ending = .done rules) :
    ∃ founds, ((findAll scanner patterns).run fs s).1.ending = .done founds ∧
      rules = founds.map (Found.rule scanner) ∧
      ∀ f ∈ founds, ∀ path ∈ f.paths, '\\' ∉ path.toList →
        Reports scanner.startDirectory path (shorten scanner.startDirectory path) := by
  obtain ⟨founds, hfounds, hrules⟩ := find_done h
  exact ⟨founds, hfounds, hrules, fun _ _ _ _ hplain => shorten_reports hplain⟩

/-- A source and its header, and a source in a directory with a longer name. -/
def neighbours : Store :=
  ((Store.empty.insert (.ofString "src/a.c") (.ofString "#include \"a.h\"\n")).insert
    (.ofString "src/a.h") []).insert (.ofString "src2/b.c") []

/-- A scanner that looks for headers in one directory. -/
def scannerFrom (start : String) : Scanner where
  search := ⟨["src"], [], standardLimit⟩
  startDirectory := start
  objectSuffix := ".o"

theorem find_shortened_slash :
    ∃ founds, ((findAll (scannerFrom "src/") ["src/a.c"]).run Store.fileSystem
        neighbours).1.ending = .done founds ∧
      ([⟨"a.o", some "a.c", ["a.h"]⟩] : List Rule) = founds.map (Found.rule (scannerFrom "src/")) ∧
      ∀ f ∈ founds, ∀ path ∈ f.paths, '\\' ∉ path.toList →
        Reports "src/" path (shorten "src/" path) := by
  have hrun : ((find (scannerFrom "src/") ["src/a.c"]).run Store.fileSystem neighbours).1.ending =
      .done [⟨"a.o", some "a.c", ["a.h"]⟩] := Ending.eq_done (by decide +kernel)
  exact find_shortened hrun

/-- The text of a start directory that is spelled without a slash at its end is taken away where it
does not end with a part of the path, and leaves a rooted path where it does. -/
theorem find_misleading :
    ((find (scannerFrom "src") ["src2/*.c"]).run Store.fileSystem neighbours).1.ending =
        .done [⟨"b.o", some "2/b.c", []⟩] ∧
      ((Path.ofString "src").join (.ofString "2/b.c")).location ≠
        (Path.ofString "src2/b.c").location ∧
    ((find (scannerFrom "src") ["src/a.c"]).run Store.fileSystem neighbours).1.ending =
        .done [⟨"a.o", some "/a.c", ["/a.h"]⟩] ∧
      ((Path.ofString "src").join (.ofString "/a.c")).location ≠
        (Path.ofString "src/a.c").location :=
  ⟨Ending.eq_done (by decide +kernel), by decide +kernel, Ending.eq_done (by decide +kernel),
    by decide +kernel⟩

end Scan

end IncludeRules
