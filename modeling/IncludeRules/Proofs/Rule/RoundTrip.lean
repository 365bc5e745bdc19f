import IncludeRules.Proofs.Rule.Reread
import Mathlib.Data.List.Infix

/-! Rules that are read back from their text as they were. -/

namespace IncludeRules.Rule

open Text

/-- A name that can stand on a continued line: it has no blanks, is not taken for a comment, does
not run into the mark that another line follows, and is not dropped. -/
@[mk_iff]
structure IsPrerequisite (p : String) : Prop where
  ne_empty : p ≠ ""
  solid : Solid p.toList
  noComment : p.toList.head? ≠ some '#'
  noContinuation : p.toList.getLast? ≠ some '\\'
  ne_colon : p ≠ ":"
  noSystem : ¬"/usr/".toList <:+: p.toList

instance (p : String) : Decidable (IsPrerequisite p) :=
  decidable_of_iff' _ (isPrerequisite_iff p)

theorem IsPrerequisite.isKept {p : String} (h : IsPrerequisite p) : isKept p.toList = true :=
  isKept_toList_iff.mpr ⟨h.ne_colon, h.noSystem⟩

theorem IsPrerequisite.reread? {p : String} (h : IsPrerequisite p) :
    reread? p.toList = some p.toList :=
  have hne : p.toList ≠ [] := fun he => h.ne_empty (String.toList_injective he)
  reread?_eq_some_iff.mpr
    ⟨dropEndWhile_beq_eq_self_iff.mpr h.noContinuation, hne, h.noComment, h.isKept⟩

/-- A rule is its prerequisites, unless it has headers but no source. -/
theorem ofPrerequisites_prerequisites {r : Rule} (h : r.source = none → r.headers = []) :
    ofPrerequisites r.object r.prerequisites = r := by
  obtain ⟨object, source, headers⟩ := r
  cases source with
  | none =>
    cases h rfl
    rfl
  | some source => rfl

theorem reread_eq_self {r : Rule} (hps : ∀ p ∈ r.prerequisites, IsPrerequisite p)
    (hsource : r.source = none → r.headers = []) : r.reread = r := by
  have hnames : r.prerequisites.filterMap (fun p => (reread? p.toList).map String.ofList) =
      r.prerequisites := by
    rw [List.filterMap_congr (g := some) fun p hp => by simp [(hps p hp).reread?],
      List.filterMap_some]
  rw [reread, hnames, ofPrerequisites_prerequisites hsource]

/-- What is read from a fragment is what was written to it. -/
theorem extract_fragment_self {rules : List Rule} {comment : String}
    (hobj : ∀ r ∈ rules, IsObject r.object)
    (hps : ∀ r ∈ rules, ∀ p ∈ r.prerequisites, IsPrerequisite p)
    (hsource : ∀ r ∈ rules, r.source = none → r.headers = []) (hcomment : IsComment comment) :
    extract (fragment rules comment) = rules := by
  rw [extract_fragment hobj (fun r hr p hp => (hps r hr p hp).solid) hcomment]
  have hself : ∀ r ∈ rules, r.reread = r :=
    fun r hr => reread_eq_self (hps r hr) (hsource r hr)
  rw [List.map_congr_left hself, List.map_id']

/-- Rules whose names come close to what cannot be read back. -/
def closeNames : List Rule :=
  [⟨"", some "a#b.c", ["\\:", "::", "é/usr.h"]⟩, ⟨":b.o\\", none, []⟩, ⟨":b.o\\", some "b.c", ["b.c"]⟩]

theorem extract_fragment_closeNames :
    ((∀ r ∈ closeNames, IsObject r.object) ∧
      (∀ r ∈ closeNames, ∀ p ∈ r.prerequisites, IsPrerequisite p) ∧
      (∀ r ∈ closeNames, r.source = none → r.headers = []) ∧
      IsComment "\r\n # one: two\n\n\t#\\\n \n") ∧
    extract (fragment closeNames "\r\n # one: two\n\n\t#\\\n \n") = closeNames :=
  have hobj : ∀ r ∈ closeNames, IsObject r.object := by decide +kernel
  have hps : ∀ r ∈ closeNames, ∀ p ∈ r.prerequisites, IsPrerequisite p := by decide +kernel
  have hsource : ∀ r ∈ closeNames, r.source = none → r.headers = [] := by decide +kernel
  have hcomment : IsComment "\r\n # one: two\n\n\t#\\\n \n" := by decide +kernel
  ⟨⟨hobj, hps, hsource, hcomment⟩, extract_fragment_self hobj hps hsource hcomment⟩

end IncludeRules.Rule
