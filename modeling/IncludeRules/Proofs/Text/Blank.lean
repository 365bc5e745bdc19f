import IncludeRules.Text.Blank
import Mathlib.Data.List.DropRight

/-! Trimming a text and taking it apart into words. -/

namespace IncludeRules.Text

variable {p : Char → Bool} {s t w : List Char} {c : Char}

/-- A text without blanks. -/
def Solid (s : List Char) : Prop :=
  ∀ c ∈ s, isBlank c = false

instance : Decidable (Solid s) :=
  List.decidableBAll _ s

theorem Solid.append (hs : Solid s) (ht : Solid t) : Solid (s ++ t) :=
  List.forall_mem_append.mpr ⟨hs, ht⟩

theorem dropEndWhile_eq_rdropWhile (p : Char → Bool) (s : List Char) :
    dropEndWhile p s = s.rdropWhile p := by
  induction s with
  | nil => rfl
  | cons c s ih =>
    have hcons : (c :: s).rdropWhile p =
        if s.rdropWhile p = [] then if p c then [] else [c] else c :: s.rdropWhile p := by
      rw [List.rdropWhile, List.reverse_cons, List.dropWhile_append]
      by_cases h : s.reverse.dropWhile p = [] <;> by_cases hc : p c <;>
        simp [List.rdropWhile, h, hc]
    rw [dropEndWhile, hcons, ih]
    cases s.rdropWhile p <;> simp

theorem dropEndWhile_congr {q : Char → Bool} (h : ∀ c ∈ s, p c = q c) :
    dropEndWhile p s = dropEndWhile q s := by
  induction s with
  | nil => rfl
  | cons c s ih =>
    rw [dropEndWhile, dropEndWhile, ih fun c hc => h c (List.mem_cons_of_mem _ hc),
      h c List.mem_cons_self]

theorem dropEndWhile_prefix_self (p : Char → Bool) (s : List Char) : dropEndWhile p s <+: s := by
  rw [dropEndWhile_eq_rdropWhile]
  exact List.rdropWhile_prefix p s

theorem Solid.dropEndWhile (h : Solid s) : Solid (dropEndWhile p s) :=
  fun c hc => h c ((dropEndWhile_prefix_self p s).subset hc)

theorem dropEndWhile_concat_pos (h : p c = true) (s : List Char) :
    dropEndWhile p (s ++ [c]) = dropEndWhile p s := by
  rw [dropEndWhile_eq_rdropWhile, dropEndWhile_eq_rdropWhile, List.rdropWhile_concat_pos _ _ _ h]

theorem dropEndWhile_concat_neg (h : p c = false) (s : List Char) :
    dropEndWhile p (s ++ [c]) = s ++ [c] := by
  rw [dropEndWhile_eq_rdropWhile, List.rdropWhile_concat_neg _ _ _ (by simp [h])]

theorem dropEndWhile_eq_self_iff :
    dropEndWhile p s = s ↔ ∀ c ∈ s.getLast?, p c = false := by
  rw [dropEndWhile_eq_rdropWhile, List.rdropWhile_eq_self_iff]
  cases h : s.getLast? with
  | none => simp [List.getLast?_eq_none_iff.mp h]
  | some c =>
    obtain ⟨front, rfl⟩ := List.getLast?_eq_some_iff.mp h
    simp

theorem dropEndWhile_beq_eq_self_iff :
    dropEndWhile (· == c) s = s ↔ s.getLast? ≠ some c := by
  rw [dropEndWhile_eq_self_iff]
  constructor
  · intro h hc
    cases (beq_self_eq_true c).symm.trans (h c hc)
  · intro h d hd
    exact beq_false_of_ne fun hdc => h (hdc ▸ hd)

theorem getLast?_dropEndWhile (h : (dropEndWhile p s).getLast? = some c) : p c = false := by
  refine dropEndWhile_eq_self_iff.mp ?_ c h
  rw [dropEndWhile_eq_rdropWhile, dropEndWhile_eq_rdropWhile, List.rdropWhile_idempotent]

/-- What is left of a text starts like it. -/
theorem head?_of_dropEndWhile (h : (dropEndWhile p s).head? = some c) : s.head? = some c := by
  obtain ⟨tail, hs⟩ := dropEndWhile_prefix_self p s
  rw [← hs, List.head?_append, h, Option.some_or]

theorem head?_dropEndWhile (h : s.head? = some c) (hc : p c = false) :
    (dropEndWhile p s).head? = some c := by
  obtain ⟨rest, rfl⟩ := List.head?_eq_some_iff.mp h
  rw [dropEndWhile]
  cases dropEndWhile p rest <;> simp [hc]

/-- What stands before the piece after the last separator. -/
theorem splitAfterLast_fst (p : Char → Bool) (s : List Char) :
    (splitAfterLast p s).1 = dropEndWhile (!p ·) s := by
  have hparts : s.rdropWhile (!p ·) ++ s.rtakeWhile (!p ·) = s := List.rdropWhile_append_rtakeWhile
  have hlength := congrArg List.length hparts
  rw [List.length_append] at hlength
  calc (splitAfterLast p s).1
    _ = s.take (s.length - (s.rtakeWhile (!p ·)).length) := rfl
    _ = (s.rdropWhile (!p ·) ++ s.rtakeWhile (!p ·)).take (s.rdropWhile (!p ·)).length := by
      rw [hparts, ← hlength, Nat.add_sub_cancel]
    _ = dropEndWhile (!p ·) s := by rw [List.take_left, dropEndWhile_eq_rdropWhile]

theorem trimEnd_cons (c : Char) (s : List Char) :
    trimEnd (c :: s) =
      if trimEnd s = [] then if isBlank c then [] else [c] else c :: trimEnd s := by
  rw [trimEnd, trimEnd, dropEndWhile]
  cases dropEndWhile isBlank s <;> simp

/-- A text is trimmed alike from either end first. -/
theorem trim_eq_dropWhile_trimEnd (s : List Char) : trim s = (trimEnd s).dropWhile isBlank := by
  unfold trim trimEnd
  induction s with
  | nil => rfl
  | cons c s ih =>
    cases hc : isBlank c with
    | true =>
      rw [List.dropWhile_cons_of_pos hc, ih, dropEndWhile]
      cases dropEndWhile isBlank s <;> simp [hc]
    | false =>
      have hne : ¬isBlank c = true := by simp [hc]
      rw [List.dropWhile_cons_of_neg hne, dropEndWhile]
      cases dropEndWhile isBlank s <;> simp [hc]

theorem trim_congr (h : trimEnd s = trimEnd t) : trim s = trim t := by
  rw [trim_eq_dropWhile_trimEnd, trim_eq_dropWhile_trimEnd, h]

theorem trim_concat (hc : isBlank c = false) (s : List Char) :
    trim (s ++ [c]) = s.dropWhile isBlank ++ [c] := by
  rw [trim_eq_dropWhile_trimEnd, trimEnd, dropEndWhile_concat_neg hc, List.dropWhile_append]
  cases s.dropWhile isBlank <;> simp [hc]

theorem Solid.trimEnd (h : Solid s) : trimEnd s = s :=
  dropEndWhile_eq_self_iff.mpr fun c hc => h c (List.mem_of_getLast? hc)

/-- A trimmed text starts with no blank. -/
theorem head?_trim (h : (trim s).head? = some c) : isBlank c = false := by
  have hfirst := List.head?_dropWhile_not isBlank s
  rw [head?_of_dropEndWhile h] at hfirst
  exact hfirst

theorem mem_splitOnP_false {α : Type} {p : α → Bool} {s w : List α} (h : w ∈ s.splitOnP p) :
    ∀ c ∈ w, p c = false := by
  induction s generalizing w with
  | nil =>
    cases List.mem_singleton.mp h
    exact fun _ hc => nomatch hc
  | cons c s ih =>
    rw [List.splitOnP_cons_eq_if_modifyHead] at h
    by_cases hc : p c = true
    · rw [if_pos hc] at h
      rcases List.mem_cons.mp h with rfl | h
      · exact fun _ hc => nomatch hc
      · exact ih h
    · rw [if_neg hc] at h
      obtain ⟨head, rest, hs⟩ := List.exists_cons_of_ne_nil (List.splitOnP_ne_nil p s)
      rw [hs] at h ih
      rcases List.mem_cons.mp h with rfl | h
      · exact List.forall_mem_cons.mpr ⟨Bool.not_eq_true _ ▸ hc, ih List.mem_cons_self⟩
      · exact ih (List.mem_cons_of_mem _ h)

theorem solid_of_mem_words (h : w ∈ words s) : Solid w :=
  mem_splitOnP_false (List.mem_of_mem_filter h)

theorem ne_nil_of_mem_words (h : w ∈ words s) : w ≠ [] := by
  rintro rfl
  simpa using (List.mem_filter.mp h).2

/-- A text without blanks is its only word. -/
theorem words_of_solid (h : Solid s) (hne : s ≠ []) : words s = [s] := by
  rw [words, List.splitOnP_eq_singleton h]
  simpa using hne

theorem words_append_blank (h : isBlank c = true) (s t : List Char) :
    words (s ++ c :: t) = words s ++ words t := by
  rw [words, List.splitOnP_append_cons s t h, List.filter_append]
  rfl

theorem words_concat_blank (h : isBlank c = true) (s : List Char) : words (s ++ [c]) = words s := by
  rw [words_append_blank h]
  exact List.append_nil _

theorem words_dropWhile_blank (s : List Char) : words (s.dropWhile isBlank) = words s := by
  induction s with
  | nil => rfl
  | cons c s ih =>
    cases hc : isBlank c with
    | true =>
      rw [List.dropWhile_cons_of_pos hc, ih]
      exact (words_append_blank hc [] s).symm
    | false => rw [List.dropWhile_cons_of_neg (by simp [hc])]

/-- An end part that consists of blanks can be dropped without a change to the words. -/
theorem words_dropEndWhile (h : ∀ c ∈ s, p c = true → isBlank c = true) :
    words (dropEndWhile p s) = words s := by
  induction s using List.reverseRecOn with
  | nil => rfl
  | append_singleton s c ih =>
    cases hc : p c with
    | true =>
      have hblank : isBlank c = true := h c (by simp) hc
      rw [dropEndWhile_concat_pos hc, words_concat_blank hblank]
      exact ih fun d hd => h d (List.mem_append_left _ hd)
    | false => rw [dropEndWhile_concat_neg hc]

theorem words_trimEnd (s : List Char) : words (trimEnd s) = words s :=
  words_dropEndWhile fun _ _ hc => hc

/-- Blanks at the ends of a text belong to no word. -/
theorem words_trim (s : List Char) : words (trim s) = words s := by
  rw [trim, words_trimEnd, words_dropWhile_blank]

/-- A word that a text begins with goes on up to the next blank. -/
theorem words_solid_append (hs : Solid s) (hne : s ≠ []) (t : List Char) :
    ∃ later, words (s ++ t) = (s ++ t.takeWhile (!isBlank ·)) :: later := by
  have hword : Solid (s ++ t.takeWhile (!isBlank ·)) := by
    apply hs.append
    intro c hc
    simpa using List.mem_takeWhile_imp hc
  have hwords := words_of_solid hword (by simp [hne])
  have ht : t.takeWhile (!isBlank ·) ++ t.dropWhile (!isBlank ·) = t :=
    List.takeWhile_append_dropWhile
  cases hrest : t.dropWhile (!isBlank ·) with
  | nil =>
    rw [hrest, List.append_nil] at ht
    rw [ht] at hwords ⊢
    exact ⟨[], hwords⟩
  | cons c rest =>
    have hc : isBlank c = true := by
      have hfirst := List.head?_dropWhile_not (!isBlank ·) t
      rw [hrest] at hfirst
      simpa using hfirst
    refine ⟨words rest, ?_⟩
    rw [hrest] at ht
    nth_rewrite 1 [← ht]
    rw [← List.append_assoc, words_append_blank hc, hwords]
    rfl

/-- The first word of a text that starts with no blank starts like the text. -/
theorem head?_of_words {ws : List (List Char)} (hs : ∀ c ∈ s.head?, isBlank c = false)
    (h : words s = w :: ws) : w.head? = s.head? := by
  cases s with
  | nil => cases h
  | cons c s =>
    have hc : isBlank c = false := hs c rfl
    obtain ⟨head, rest, hsplit⟩ := List.exists_cons_of_ne_nil (List.splitOnP_ne_nil isBlank s)
    rw [words, List.splitOnP_cons_eq_if_modifyHead, hsplit] at h
    obtain ⟨rfl, -⟩ : c :: head = w ∧ _ := by simpa [hc] using h
    rfl

theorem contains_iff_infix : contains t s = true ↔ t <:+: s := by
  induction s with
  | nil => simp [contains]
  | cons c s ih => simp [contains, ih, List.infix_cons_iff]

end IncludeRules.Text
