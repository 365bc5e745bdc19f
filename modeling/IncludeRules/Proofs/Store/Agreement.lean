import IncludeRules.Proofs.Store.Entries
import IncludeRules.Proofs.Store.Frozen

/-! Stores that hold the same files but for some places. -/

namespace IncludeRules

variable {places : List Location}

/-- None of the places is what a call asks for, or below it. -/
def Call.Misses (places : List Location) (c : Call) : Prop :=
  ∀ l ∈ places, ¬c.path.location <+: l

instance (places : List Location) (c : Call) : Decidable (c.Misses places) :=
  inferInstanceAs (Decidable (∀ l ∈ places, ¬c.path.location <+: l))

namespace Store

open Scan (frozen)

variable {s t u : Store} {p : Path} {c : Call} {α : Type} {script : Script α}

/-- Two stores hold the same files, except perhaps at some places. -/
def AgreesOutside (places : List Location) (s t : Store) : Prop :=
  ∀ l, l ∉ places → t.files.lookup l = s.files.lookup l

theorem AgreesOutside.refl (s : Store) : s.AgreesOutside places s := fun _ _ => rfl

theorem AgreesOutside.trans (h : s.AgreesOutside places t) (k : t.AgreesOutside places u) :
    s.AgreesOutside places u :=
  fun l hl => (k l hl).trans (h l hl)

theorem AgreesOutside.mem_locations_iff (h : s.AgreesOutside places t) {l : Location}
    (hl : l ∉ places) : l ∈ t.locations ↔ l ∈ s.locations := by
  rw [Store.mem_locations_iff, Store.mem_locations_iff, h l hl]

/-- A call that misses the places where stores differ is answered alike. -/
theorem AgreesOutside.answer (h : s.AgreesOutside places t) (hc : c.Misses places) :
    (frozen t).answer c = (frozen s).answer c := by
  have hoctets : t.octets? c.path = s.octets? c.path :=
    h _ fun hmem => hc _ hmem List.prefix_rfl
  have hbelow : ∀ l, c.path.location <+: l → (l ∈ t.locations ↔ l ∈ s.locations) :=
    fun l hl => h.mem_locations_iff fun hmem => hc l hmem hl
  cases c with
  | read p => exact frozen_read_congr hoctets
  | readText p =>
    have hread : t.read p = s.read p := Except.ok.inj (frozen_read_congr hoctets)
    simp only [frozen, Store.fileSystem, hread]
  | write p text => rfl
  | present p => exact congrArg Except.ok (present_congr hbelow)
  | isDirectory p => exact congrArg Except.ok (isDirectory_congr hbelow)
  | entries p =>
    have hdirectory : t.isDirectory p = s.isDirectory p := isDirectory_congr hbelow
    have hentries : t.entries p = s.entries p := entries_congr hbelow
    simp only [frozen, Store.fileSystem, hdirectory, hentries]
    split <;> rfl

/-- A script that only looks, and not at the places where stores differ, runs alike. -/
theorem AgreesOutside.run (h : s.AgreesOutside places t) (hlooks : script.Looks)
    (hcalls : ∀ c ∈ (script.course (frozen s)).calls, c.Misses places) :
    (script.run fileSystem t).1 = (script.run fileSystem s).1 := by
  have hcrash : ∀ crash, (script.course (frozen s)).ending ≠ .crashed crash := by
    have hreliable := Script.course_not_crashed Faulty.reliable.answering script s
    rw [Faulty.reliable_fileSystem, course_frozen hlooks] at hreliable
    exact hreliable
  rw [run_frozen hlooks, run_frozen hlooks, Script.run_eq_course, Script.run_eq_course,
    Script.course_congr (fun c hc => h.answer (hcalls c hc)) hcrash]

end Store

end IncludeRules
