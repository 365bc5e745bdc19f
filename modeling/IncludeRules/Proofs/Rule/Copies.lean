import IncludeRules.Proofs.Rule.Synonyms

/-! Where the copies stand that synonyms bring in, and what is left without them. -/

namespace IncludeRules.Rule

variable {r c : Rule} {rules front rest : List Rule} {s : Synonym} {synonyms : List Synonym}

/-- A rule that a synonym is for is followed by its copy. -/
theorem insertSynonym_of_object (h : r.object = s.object) (front rest : List Rule) :
    insertSynonym (front ++ r :: rest) s =
      insertSynonym front s ++ r :: { r with object := s.copy } :: insertSynonym rest s := by
  rw [insertSynonym_append, insertSynonym_cons, if_pos h]
  rfl

/-- A synonym brings in copies only. -/
theorem mem_insertSynonym (h : c ∈ insertSynonym rules s) :
    ∃ r ∈ rules, c = r ∨ c = { r with object := s.copy } := by
  obtain ⟨r, hr, hc⟩ := List.mem_flatMap.mp h
  refine ⟨r, hr, ?_⟩
  split at hc
  · rcases List.mem_cons.mp hc with hc | hc
    · exact Or.inl hc
    · exact Or.inr (List.mem_singleton.mp hc)
  · exact Or.inl (List.mem_singleton.mp hc)

/-- Rules that begin with `r` and are all made from the same files. -/
structure Family (r : Rule) (rules : List Rule) : Prop where
  first : ∃ copies, rules = r :: copies
  alike : ∀ c ∈ rules, c.source = r.source ∧ c.headers = r.headers

theorem Family.singleton (r : Rule) : Family r [r] where
  first := ⟨[], rfl⟩
  alike c hc := by
    rw [List.mem_singleton.mp hc]
    exact ⟨rfl, rfl⟩

theorem Family.insertSynonym (h : Family r rules) (s : Synonym) :
    Family r (insertSynonym rules s) where
  first := by
    obtain ⟨copies, rfl⟩ := h.first
    rw [insertSynonym_cons]
    split
    · exact ⟨_, rfl⟩
    · exact ⟨_, rfl⟩
  alike c hc := by
    obtain ⟨member, hmember, rfl | rfl⟩ := mem_insertSynonym hc
    · exact h.alike _ hmember
    · exact h.alike member hmember

theorem Family.insertSynonyms (h : Family r rules) (synonyms : List Synonym) :
    Family r (insertSynonyms synonyms rules) := by
  induction synonyms generalizing rules with
  | nil => exact h
  | cons s synonyms ih =>
    rw [insertSynonyms_cons]
    exact ih (h.insertSynonym s)

/-- A rule, and whether a synonym brought it in. -/
structure Marked where
  rule : Rule
  copied : Bool

namespace Marked

/-- A synonym taken with marks on the copies that it brings in. -/
def insertSynonym (marked : List Marked) (s : Synonym) : List Marked :=
  marked.flatMap fun m =>
    if m.rule.object = s.object then [m, ⟨{ m.rule with object := s.copy }, true⟩] else [m]

def insertSynonyms (synonyms : List Synonym) (marked : List Marked) : List Marked :=
  synonyms.foldl insertSynonym marked

theorem map_rule_insertSynonym (marked : List Marked) (s : Synonym) :
    (insertSynonym marked s).map rule = Rule.insertSynonym (marked.map rule) s := by
  rw [insertSynonym, Rule.insertSynonym, List.map_flatMap, List.flatMap_map]
  congr 1
  funext m
  split <;> rfl

theorem filter_insertSynonym (marked : List Marked) (s : Synonym) :
    (insertSynonym marked s).filter (!·.copied) = marked.filter (!·.copied) := by
  induction marked with
  | nil => rfl
  | cons m marked ih =>
    have hhead : (if m.rule.object = s.object then
        [m, ⟨{ m.rule with object := s.copy }, true⟩] else [m]).filter (!·.copied) =
          [m].filter (!·.copied) := by
      split
      · cases hm : m.copied <;> simp [hm]
      · rfl
    rw [insertSynonym, List.flatMap_cons, ← insertSynonym, List.filter_append, ih, hhead,
      ← List.filter_append]
    rfl

/-- Marks change nothing, and what is not marked stays as it is. -/
theorem of_insertSynonyms (synonyms : List Synonym) (marked : List Marked) :
    (insertSynonyms synonyms marked).map rule = Rule.insertSynonyms synonyms (marked.map rule) ∧
      (insertSynonyms synonyms marked).filter (!·.copied) = marked.filter (!·.copied) := by
  induction synonyms generalizing marked with
  | nil => exact ⟨rfl, rfl⟩
  | cons s synonyms ih =>
    obtain ⟨hmap, hfilter⟩ := ih (insertSynonym marked s)
    rw [insertSynonyms_cons, ← map_rule_insertSynonym, ← filter_insertSynonym marked s]
    exact ⟨hmap, hfilter⟩

end Marked

/-- Synonyms taken one after the other only add copies, and add them in place. They treat every rule
by itself; what becomes of a rule begins with it and is made from the same files; without the copies
the rules are those that there were. Each synonym puts a copy right after every rule for its object
that there is by then, also after a copy that another synonym brought in. -/
theorem insertSynonyms_copies_in_place (synonyms : List Synonym) :
    (∀ a b, insertSynonyms synonyms (a ++ b) =
      insertSynonyms synonyms a ++ insertSynonyms synonyms b) ∧
    (∀ r, ∃ copies, insertSynonyms synonyms [r] = r :: copies ∧
      ∀ c ∈ r :: copies, c.source = r.source ∧ c.headers = r.headers) ∧
    (∀ rules, let marked := Marked.insertSynonyms synonyms (rules.map (⟨·, false⟩))
      marked.map Marked.rule = insertSynonyms synonyms rules ∧
        (marked.filter (!·.copied)).map Marked.rule = rules) ∧
    ∀ before s after, synonyms = before ++ s :: after →
      ∀ rules front r rest, insertSynonyms before rules = front ++ r :: rest →
        r.object = s.object →
          ∃ copy : Rule, copy.object = s.copy ∧ copy.source = r.source ∧
            copy.headers = r.headers ∧
            insertSynonyms (before ++ [s]) rules =
              insertSynonym front s ++ r :: copy :: insertSynonym rest s := by
  refine ⟨insertSynonyms_append synonyms, fun r => ?_, fun rules => ?_, ?_⟩
  · have hfamily := (Family.singleton r).insertSynonyms synonyms
    obtain ⟨copies, hcopies⟩ := hfamily.first
    exact ⟨copies, hcopies, hcopies ▸ hfamily.alike⟩
  · obtain ⟨hmap, hfilter⟩ := Marked.of_insertSynonyms synonyms (rules.map (⟨·, false⟩))
    have hrules : (rules.map (Marked.mk · false)).map Marked.rule = rules := by
      rw [List.map_map]
      exact List.map_id rules
    have hunmarked : (rules.map (Marked.mk · false)).filter (!·.copied) =
        rules.map (Marked.mk · false) := by
      refine List.filter_eq_self.mpr fun m hm => ?_
      obtain ⟨r, -, rfl⟩ := List.mem_map.mp hm
      rfl
    rw [hrules] at hmap
    rw [hunmarked] at hfilter
    exact ⟨hmap, (congrArg (List.map Marked.rule) hfilter).trans hrules⟩
  · rintro before s after - rules front r rest hrules hobject
    refine ⟨{ r with object := s.copy }, rfl, rfl, rfl, ?_⟩
    rw [insertSynonyms_concat, hrules]
    exact insertSynonym_of_object hobject front rest

end IncludeRules.Rule
