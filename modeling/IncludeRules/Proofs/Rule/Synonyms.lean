import IncludeRules.Rule.Basic
import Mathlib.Data.List.Nodup

/-! What synonyms make of rules, and of the objects that rules are for. -/

namespace IncludeRules.Rule

variable {r : Rule} {rules : List Rule} {s : Synonym} {synonyms : List Synonym} {name : String}

theorem insertSynonym_append (a b : List Rule) (s : Synonym) :
    insertSynonym (a ++ b) s = insertSynonym a s ++ insertSynonym b s :=
  List.flatMap_append

theorem insertSynonym_cons (r : Rule) (rules : List Rule) (s : Synonym) :
    insertSynonym (r :: rules) s =
      (if r.object = s.object then [r, { r with object := s.copy }] else [r]) ++
        insertSynonym rules s :=
  List.flatMap_cons

theorem insertSynonyms_cons (s : Synonym) (synonyms : List Synonym) (rules : List Rule) :
    insertSynonyms (s :: synonyms) rules = insertSynonyms synonyms (insertSynonym rules s) := rfl

theorem insertSynonyms_concat (synonyms : List Synonym) (s : Synonym) (rules : List Rule) :
    insertSynonyms (synonyms ++ [s]) rules = insertSynonym (insertSynonyms synonyms rules) s :=
  List.foldl_append

theorem insertSynonyms_append (synonyms : List Synonym) (a b : List Rule) :
    insertSynonyms synonyms (a ++ b) = insertSynonyms synonyms a ++ insertSynonyms synonyms b := by
  induction synonyms generalizing a b with
  | nil => rfl
  | cons s synonyms ih =>
    rw [insertSynonyms_cons, insertSynonyms_cons, insertSynonyms_cons, insertSynonym_append, ih]

def objects (rules : List Rule) : List String :=
  rules.map (·.object)

theorem objects_insertSynonym_cons (r : Rule) (rules : List Rule) (s : Synonym) :
    objects (insertSynonym (r :: rules) s) =
      if r.object = s.object then r.object :: s.copy :: objects (insertSynonym rules s)
      else r.object :: objects (insertSynonym rules s) := by
  rw [objects, insertSynonym_cons, List.map_append]
  split <;> rfl

/-- A synonym brings in its copy where there is a rule for its object. -/
theorem mem_objects_insertSynonym :
    name ∈ objects (insertSynonym rules s) ↔
      name ∈ objects rules ∨ name = s.copy ∧ s.object ∈ objects rules := by
  induction rules with
  | nil => simp [objects, insertSynonym]
  | cons r rules ih =>
    have hcons : objects (r :: rules) = r.object :: objects rules := rfl
    rw [objects_insertSynonym_cons, hcons]
    by_cases h : r.object = s.object
    · rw [if_pos h]
      simp only [List.mem_cons, ih, h]
      grind
    · rw [if_neg h]
      simp only [List.mem_cons, ih, Ne.symm h, false_or]
      grind

/-- A synonym keeps the objects of rules distinct unless its copy has a rule already. -/
theorem nodup_objects_insertSynonym :
    (objects (insertSynonym rules s)).Nodup ↔
      (objects rules).Nodup ∧ (s.object ∈ objects rules → s.copy ∉ objects rules) := by
  induction rules with
  | nil => simp [objects, insertSynonym]
  | cons r rules ih =>
    have hcons : objects (r :: rules) = r.object :: objects rules := rfl
    rw [objects_insertSynonym_cons, hcons]
    by_cases h : r.object = s.object
    · rw [if_pos h]
      simp only [List.nodup_cons, List.mem_cons, mem_objects_insertSynonym, ih, h]
      grind
    · rw [if_neg h]
      have hsymm : s.copy = r.object ↔ r.object = s.copy := eq_comm
      simp only [List.nodup_cons, List.mem_cons, mem_objects_insertSynonym, ih, Ne.symm h, hsymm]
      grind

/-- Synonyms taken one after the other keep the objects of rules distinct as long as each of them
that has a rule to copy brings in a new object. -/
theorem nodup_objects_insertSynonyms :
    (objects (insertSynonyms synonyms rules)).Nodup ↔
      (objects rules).Nodup ∧ ∀ before s after, synonyms = before ++ s :: after →
        s.object ∈ objects (insertSynonyms before rules) →
          s.copy ∉ objects (insertSynonyms before rules) := by
  induction synonyms generalizing rules with
  | nil => simp [insertSynonyms]
  | cons s synonyms ih =>
    rw [insertSynonyms_cons, ih, nodup_objects_insertSynonym, and_assoc]
    refine and_congr_right fun _ => ?_
    constructor
    · rintro ⟨hs, hlater⟩ before t after heq
      cases before with
      | nil =>
        obtain ⟨rfl, -⟩ := List.cons.inj heq
        exact hs
      | cons u before =>
        obtain ⟨rfl, hrest⟩ := List.cons.inj heq
        exact hlater before t after hrest
    · intro hall
      refine ⟨hall [] s synonyms rfl, fun before t after heq => ?_⟩
      exact hall (s :: before) t after (congrArg (s :: ·) heq)

end IncludeRules.Rule
