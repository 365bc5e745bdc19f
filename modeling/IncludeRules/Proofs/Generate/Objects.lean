import IncludeRules.Command.Generate
import IncludeRules.Proofs.Rule.Synonyms
import IncludeRules.Proofs.Scan.Shortened

/-! The objects that the rules of a target are for. -/

namespace IncludeRules

variable {σ : Type} {fs : FileSystem (StateM σ)} {s : σ} {c : Config} {t : Target}
  {rules : List Rule}

/-- The rules of a target are those of the sources that were found, with copies for synonyms. -/
theorem dependencies_done (h : ((dependencies c t).run fs s).1.ending = .done rules) :
    ∃ founds, ((Scan.findAll (c.scanner t) (c.sourcePatterns t)).run fs s).1.ending = .done founds ∧
      rules = Rule.insertSynonyms t.synonyms (founds.map (Scan.Found.rule (c.scanner t))) := by
  obtain ⟨scanned, u, hscanned, -, hrules⟩ := Script.run_bind_done h
  obtain ⟨founds, hfounds, rfl⟩ := Scan.find_done hscanned
  cases hrules
  exact ⟨founds, hfounds, rfl⟩

theorem objects_map_rule (scanner : Scan.Scanner) (founds : List Scan.Found) :
    Rule.objects (founds.map (Scan.Found.rule scanner)) =
      founds.map fun f => Scan.objectName f.source scanner.objectSuffix := by
  rw [Rule.objects, List.map_map]
  rfl

/-- There is a rule for every source that a pattern matches, whatever its object is called. The
objects are distinct exactly when no two of the sources have the same object name, and no synonym
copies a rule under a name for which there is one by then. -/
theorem dependencies_objects_nodup_iff
    (h : ((dependencies c t).run fs s).1.ending = .done rules) :
    ∃ founds, ((Scan.findAll (c.scanner t) (c.sourcePatterns t)).run fs s).1.ending = .done founds ∧
      rules = Rule.insertSynonyms t.synonyms (founds.map (Scan.Found.rule (c.scanner t))) ∧
      ((Rule.objects rules).Nodup ↔
        (founds.map fun f => Scan.objectName f.source t.objectSuffix).Nodup ∧
        ∀ before synonym after, t.synonyms = before ++ synonym :: after →
          let names := Rule.objects
            (Rule.insertSynonyms before (founds.map (Scan.Found.rule (c.scanner t))))
          synonym.object ∈ names → synonym.copy ∉ names) := by
  obtain ⟨founds, hfounds, rfl⟩ := dependencies_done h
  refine ⟨founds, hfounds, rfl, ?_⟩
  rw [Rule.nodup_objects_insertSynonyms, objects_map_rule]
  rfl

/-- Two sources with one name in different directories. -/
def namesakes : Store :=
  (Store.empty.insert (.ofString "src/a.c") []).insert (.ofString "lib/a.c") []

/-- The same sources and a third one. -/
def twins : Store :=
  namesakes.insert (.ofString "lib/b.c") []

/-- Sources with one name, a source that two patterns match, and a copy under a name that is taken:
no check objects to any of these. -/
def overlapping : Config where
  targets := [
    { name := "directories", sources := ["src/a.c", "lib/a.c"], output := "d.mak" },
    { name := "patterns", sources := ["src/a.c", "src/*.c"], output := "p.mak" },
    { name := "synonyms", sources := ["lib/a.c", "lib/b.c"], synonyms := [⟨"a.o", "b.o"⟩]
      output := "s.mak" }]

example : overlapping.validate = .ok () ∧
    (overlapping.targets.map fun t =>
      ((dependencies overlapping t).run Store.fileSystem twins).1.ending.done?.map Rule.objects) =
      [some ["a.o", "a.o"], some ["a.o", "a.o"], some ["a.o", "b.o", "b.o"]] := by
  decide +kernel

/-- A copy of a copy. -/
def chained : Target where
  name := "chained"
  sources := ["src/a.c"]
  synonyms := [⟨"a.o", "b.o"⟩, ⟨"b.o", "c.o"⟩]
  output := "c.mak"

def chainedRules : List Rule :=
  ["a.o", "b.o", "c.o"].map fun object => ⟨object, some "src/a.c", []⟩

theorem dependencies_objects_nodup_chained :
    ∃ founds, ((Scan.findAll (overlapping.scanner chained) (overlapping.sourcePatterns chained)).run
        Store.fileSystem twins).1.ending = .done founds ∧
      chainedRules = Rule.insertSynonyms chained.synonyms
        (founds.map (Scan.Found.rule (overlapping.scanner chained))) ∧
      ((Rule.objects chainedRules).Nodup ↔
        (founds.map fun f => Scan.objectName f.source chained.objectSuffix).Nodup ∧
        ∀ before synonym after, chained.synonyms = before ++ synonym :: after →
          let names := Rule.objects (Rule.insertSynonyms before
            (founds.map (Scan.Found.rule (overlapping.scanner chained))))
          synonym.object ∈ names → synonym.copy ∉ names) := by
  have hrun : ((dependencies overlapping chained).run Store.fileSystem twins).1.ending =
      .done chainedRules := Ending.eq_done (by decide +kernel)
  exact dependencies_objects_nodup_iff hrun

/-- One target with the sources of two directories. -/
def gathered : Target where
  name := "x"
  sources := ["src/*.c", "lib/*.c"]
  output := "d.mak"

/-- A valid configuration whose target has two rules for one object. -/
theorem dependencies_repeat_objects :
    let c : Config := { targets := [gathered] }
    let rules : List Rule := [⟨"a.o", some "src/a.c", []⟩, ⟨"a.o", some "lib/a.c", []⟩]
    c.validate = .ok () ∧
      ((dependencies c gathered).run Store.fileSystem namesakes).1.ending = .done rules ∧
      ¬(Rule.objects rules).Nodup :=
  ⟨by decide +kernel, Ending.eq_done (by decide +kernel), by decide⟩

end IncludeRules
