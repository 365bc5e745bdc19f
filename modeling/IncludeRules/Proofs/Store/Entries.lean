import IncludeRules.Proofs.Store.Files
import Mathlib.Data.List.Sort
import Mathlib.Data.String.Basic

/-! What exists in a store, and the entries of its directories. -/

namespace IncludeRules

section

variable {α : Type} [DecidableEq α]

theorem eraseRepsBy_loop (a : α) (rest seen : List α) :
    List.eraseRepsBy.loop (· == ·) a rest seen = seen.reverse ++ (a :: rest).eraseReps := by
  induction rest generalizing a seen with
  | nil => simp [List.eraseReps, List.eraseRepsBy, List.eraseRepsBy.loop]
  | cons b rest ih =>
    rw [List.eraseRepsBy.loop, List.eraseReps, List.eraseRepsBy, List.eraseRepsBy.loop]
    cases a == b with
    | true =>
      dsimp only
      rw [ih, ih, List.reverse_nil, List.nil_append]
    | false =>
      dsimp only
      rw [ih, ih, List.reverse_cons, List.reverse_singleton, List.append_assoc]

theorem eraseReps_cons_cons (a b : α) (rest : List α) :
    (a :: b :: rest).eraseReps =
      if a = b then (b :: rest).eraseReps else a :: (b :: rest).eraseReps := by
  rw [List.eraseReps, List.eraseRepsBy, List.eraseRepsBy.loop]
  by_cases h : a = b
  · subst h
    rw [beq_self_eq_true, if_pos rfl]
    exact eraseRepsBy_loop a rest []
  · rw [beq_eq_false_iff_ne.mpr h, if_neg h]
    exact eraseRepsBy_loop b rest [a]

theorem mem_eraseReps {a : α} {l : List α} : a ∈ l.eraseReps ↔ a ∈ l := by
  induction l with
  | nil => rfl
  | cons b l ih =>
    cases l with
    | nil => rfl
    | cons c rest =>
      rw [eraseReps_cons_cons]
      by_cases h : b = c
      · rw [if_pos h, ih, h]
        simp
      · rw [if_neg h, List.mem_cons, ih, List.mem_cons (a := a) (b := b)]

end

/-- What ascends, ascends strictly once repetitions are gone. -/
theorem pairwise_lt_eraseReps {α : Type} [LinearOrder α] {l : List α} (h : l.Pairwise (· ≤ ·)) :
    l.eraseReps.Pairwise (· < ·) := by
  induction l with
  | nil => exact .nil
  | cons a l ih =>
    cases l with
    | nil => exact List.pairwise_singleton _ a
    | cons b rest =>
      obtain ⟨ha, hrest⟩ := List.pairwise_cons.mp h
      have ih := ih hrest
      rw [eraseReps_cons_cons]
      by_cases hab : a = b
      · rw [if_pos hab]
        exact ih
      · rw [if_neg hab]
        have hlt : a < b := lt_of_le_of_ne (ha b List.mem_cons_self) hab
        refine List.pairwise_cons.mpr ⟨fun c hc => ?_, ih⟩
        rcases List.mem_cons.mp (mem_eraseReps.mp hc) with rfl | hc
        · exact hlt
        · exact hlt.trans_le ((List.pairwise_cons.mp hrest).1 c hc)

namespace Store

variable {s t : Store} {p : Path} {name : String}

theorem mem_locations_iff {l : Location} : l ∈ s.locations ↔ (s.files.lookup l).isSome := by
  simp only [locations, List.mem_map, List.lookup_isSome_iff, beq_iff_eq]
  exact exists_congr fun _ => and_congr_right fun _ => eq_comm

/-- Something exists where a file is at or below it. -/
theorem present_iff : s.present p = true ↔
    p.location = [] ∨ ∃ rest, p.location ++ rest ∈ s.locations := by
  rw [present, Bool.or_eq_true, List.isEmpty_iff, List.any_eq_true]
  refine or_congr_right ?_
  constructor
  · rintro ⟨l, hl, hbelow⟩
    obtain ⟨rest, rfl⟩ := List.isPrefixOf_iff_prefix.mp hbelow
    exact ⟨rest, hl⟩
  · rintro ⟨rest, hl⟩
    exact ⟨_, hl, List.isPrefixOf_iff_prefix.mpr (List.prefix_append _ rest)⟩

/-- A directory is what has a file below it. -/
theorem isDirectory_iff : s.isDirectory p = true ↔
    p.location = [] ∨ ∃ c rest, p.location ++ c :: rest ∈ s.locations := by
  rw [isDirectory, Bool.or_eq_true, List.isEmpty_iff, List.any_eq_true]
  refine or_congr_right ?_
  constructor
  · rintro ⟨l, hl, hbelow⟩
    rw [Bool.and_eq_true, bne_iff_ne] at hbelow
    obtain ⟨rest, rfl⟩ := List.isPrefixOf_iff_prefix.mp hbelow.2
    cases rest with
    | nil => exact absurd (List.append_nil _) hbelow.1
    | cons c rest => exact ⟨c, rest, hl⟩
  · rintro ⟨c, rest, hl⟩
    refine ⟨_, hl, ?_⟩
    rw [Bool.and_eq_true, bne_iff_ne]
    refine ⟨?_, List.isPrefixOf_iff_prefix.mpr (List.prefix_append _ _)⟩
    intro heq
    cases List.append_right_eq_self.mp heq

/-- What exists and holds nothing is only a directory. -/
theorem isDirectory_of_present (hpresent : s.present p = true)
    (hoctets : s.octets? p = none) : s.isDirectory p = true := by
  rw [isDirectory_iff]
  refine (present_iff.mp hpresent).imp_right ?_
  rintro ⟨rest, hl⟩
  cases rest with
  | nil =>
    rw [List.append_nil, mem_locations_iff, ← octets?, hoctets] at hl
    cases hl
  | cons c rest => exact ⟨c, rest, hl⟩

/-- What exists is determined by the locations at or below it. -/
theorem present_congr (h : ∀ l, p.location <+: l → (l ∈ t.locations ↔ l ∈ s.locations)) :
    t.present p = s.present p := by
  rw [Bool.eq_iff_iff, present_iff, present_iff]
  exact or_congr_right (exists_congr fun rest => h _ (List.prefix_append _ rest))

theorem isDirectory_congr (h : ∀ l, p.location <+: l → (l ∈ t.locations ↔ l ∈ s.locations)) :
    t.isDirectory p = s.isDirectory p := by
  rw [Bool.eq_iff_iff, isDirectory_iff, isDirectory_iff]
  refine or_congr_right (exists_congr fun c => exists_congr fun rest => ?_)
  exact h _ (List.prefix_append _ (c :: rest))

theorem mem_entries_iff : name ∈ s.entries p ↔
    ∃ rest, p.location ++ rest ∈ s.locations ∧ rest.head?.bind entryName? = some name := by
  simp only [entries, mem_eraseReps, List.mem_mergeSort, List.mem_filterMap,
    List.isPrefixOf?_eq_some_iff_append_eq]
  constructor
  · rintro ⟨rest, ⟨l, hl, rfl⟩, hname⟩
    exact ⟨rest, hl, hname⟩
  · rintro ⟨rest, hl, hname⟩
    exact ⟨rest, ⟨_, hl, rfl⟩, hname⟩

theorem entries_pairwise (s : Store) (p : Path) : (s.entries p).Pairwise (· < ·) :=
  pairwise_lt_eraseReps (List.pairwise_mergeSort' (· ≤ ·) _)

/-- The entries of a directory are determined by the locations below it. -/
theorem entries_congr (h : ∀ l, p.location <+: l → (l ∈ t.locations ↔ l ∈ s.locations)) :
    t.entries p = s.entries p := by
  refine (entries_pairwise t p).eq_of_mem_iff (entries_pairwise s p) fun name => ?_
  rw [mem_entries_iff, mem_entries_iff]
  exact exists_congr fun rest => and_congr_left fun _ => h _ (List.prefix_append _ rest)

end Store

end IncludeRules
