import IncludeRules.Proofs.Text.Blank
import IncludeRules.Text.Lines

/-! The lines of a text as the pieces between its line feeds, for readers to whom carriage returns
at line ends and an empty last piece mean nothing. -/

namespace IncludeRules.Text

variable {β : Type} {s : List Char}

/-- The pieces between line feeds. -/
abbrev pieces (s : List Char) : List (List Char) :=
  s.splitOnP (· == '\n')

theorem pieces_append (s rest : List Char) :
    pieces (s ++ '\n' :: rest) = pieces s ++ pieces rest :=
  List.splitOnP_append_cons s rest rfl

theorem pieces_eq_singleton {line : List Char} (h : '\n' ∉ line) : pieces line = [line] :=
  List.splitOn_eq_singleton h

theorem pieces_line {line : List Char} (h : '\n' ∉ line) (rest : List Char) :
    pieces (line ++ '\n' :: rest) = line :: pieces rest :=
  List.splitOn_append_cons_self_of_not_mem h rest

theorem foldl_endedLines {f : β → List Char → β}
    (hreturn : ∀ b line, f b (dropReturn line) = f b line) (hempty : ∀ b, f b [] = b)
    (l : List (List Char)) (b : β) : (endedLines l).foldl f b = l.foldl f b := by
  induction l generalizing b with
  | nil => rfl
  | cons line rest ih =>
    cases rest with
    | nil =>
      cases line with
      | nil => exact (hempty b).symm
      | cons c line => rfl
    | cons next rest =>
      rw [endedLines, List.foldl_cons, List.foldl_cons, hreturn, ih]
      exact fun h => nomatch h

/-- Reading line by line is reading piece by piece. -/
theorem foldl_lines {f : β → List Char → β}
    (hreturn : ∀ b line, f b (dropReturn line) = f b line) (hempty : ∀ b, f b [] = b)
    (s : List Char) (b : β) : (lines s).foldl f b = (pieces s).foldl f b :=
  foldl_endedLines hreturn hempty _ b

theorem forall_endedLines {P : List Char → Prop} (hreturn : ∀ line, P (dropReturn line) ↔ P line)
    (hempty : P []) (l : List (List Char)) : (∀ x ∈ endedLines l, P x) ↔ ∀ x ∈ l, P x := by
  induction l with
  | nil => rfl
  | cons line rest ih =>
    cases rest with
    | nil =>
      cases line with
      | nil => simp [endedLines, hempty]
      | cons c line => simp [endedLines]
    | cons next rest =>
      rw [endedLines, List.forall_mem_cons, List.forall_mem_cons, hreturn, ih]
      exact fun h => nomatch h

theorem forall_lines {P : List Char → Prop} (hreturn : ∀ line, P (dropReturn line) ↔ P line)
    (hempty : P []) (s : List Char) : (∀ x ∈ lines s, P x) ↔ ∀ x ∈ pieces s, P x :=
  forall_endedLines hreturn hempty _

theorem filterMap_endedLines {f : List Char → Option β}
    (hreturn : ∀ line, f (dropReturn line) = f line)
    (hempty : f [] = none) (l : List (List Char)) : (endedLines l).filterMap f = l.filterMap f := by
  induction l with
  | nil => rfl
  | cons line rest ih =>
    cases rest with
    | nil =>
      cases line with
      | nil => simp [endedLines, hempty]
      | cons c line => rfl
    | cons next rest =>
      rw [endedLines, List.filterMap_cons, List.filterMap_cons, hreturn, ih]
      exact fun h => nomatch h

theorem filterMap_lines {f : List Char → Option β} (hreturn : ∀ line, f (dropReturn line) = f line)
    (hempty : f [] = none) (s : List Char) : (lines s).filterMap f = (pieces s).filterMap f :=
  filterMap_endedLines hreturn hempty _

/-- The text with one more line: it stands after the first `k` pieces, or after all of them. -/
def insertLine (k : Nat) (line s : List Char) : List Char :=
  ['\n'].intercalate ((pieces s).take k ++ line :: (pieces s).drop k)

theorem pieces_insertLine {line : List Char} (h : '\n' ∉ line) (k : Nat) (s : List Char) :
    pieces (insertLine k line s) = (pieces s).take k ++ line :: (pieces s).drop k := by
  refine List.splitOn_intercalate '\n' (fun piece hpiece => ?_) (by simp)
  have hfree (piece : List Char) (hmem : piece ∈ pieces s) : '\n' ∉ piece := by
    intro hbreak
    have hno := mem_splitOnP_false hmem '\n' hbreak
    simp at hno
  rcases List.mem_append.mp hpiece with hpiece | hpiece
  · exact hfree piece (List.mem_of_mem_take hpiece)
  · rcases List.mem_cons.mp hpiece with rfl | hpiece
    · exact h
    · exact hfree piece (List.mem_of_mem_drop hpiece)

theorem trimEnd_dropReturn (line : List Char) : trimEnd (dropReturn line) = trimEnd line := by
  unfold dropReturn
  split
  · next h =>
    obtain ⟨front, rfl⟩ := List.getLast?_eq_some_iff.mp h
    rw [List.dropLast_concat]
    exact (dropEndWhile_concat_pos rfl front).symm
  · rfl

theorem trimEnd_cons_congr {line other : List Char} (h : trimEnd line = trimEnd other) (c : Char) :
    trimEnd (c :: line) = trimEnd (c :: other) := by
  rw [trimEnd_cons, trimEnd_cons, h]

/-- The first piece of a text and the pieces after it. -/
theorem exists_pieces (s : List Char) : ∃ line rest, pieces s = line :: rest :=
  List.exists_cons_of_ne_nil (List.splitOnP_ne_nil _ s)

theorem pieces_cons (c : Char) (s : List Char) :
    pieces (c :: s) = if c = '\n' then [] :: pieces s else (pieces s).modifyHead (c :: ·) := by
  rw [pieces, List.splitOnP_cons_eq_if_modifyHead]
  simp

/-- Trimming a text at its end leaves its lines as they are up to blanks at their ends, and drops
blank lines at the end. -/
theorem pieces_trimEnd (s : List Char) :
    (pieces (trimEnd s)).map trimEnd <+: (pieces s).map trimEnd := by
  induction s with
  | nil => exact List.prefix_refl _
  | cons c s ih =>
    obtain ⟨line, rest, hs⟩ := exists_pieces s
    obtain ⟨line', rest', ht⟩ := exists_pieces (trimEnd s)
    rw [hs, ht, List.map_cons, List.map_cons, List.cons_prefix_cons] at ih
    obtain ⟨hline, hrest⟩ := ih
    rw [trimEnd_cons, pieces_cons, hs]
    by_cases hnil : trimEnd s = []
    · -- Nothing is left after `c`, so what follows it in its own line is blank as well.
      rw [hnil, pieces, List.splitOnP_nil] at ht
      obtain ⟨rfl, -⟩ := List.cons.inj ht
      have hblank : trimEnd line = [] := hline.symm
      have hfirst : trimEnd (c :: line) = if isBlank c then [] else [c] := by
        rw [trimEnd_cons, if_pos hblank]
      rw [if_pos hnil]
      by_cases hc : c = '\n'
      · subst hc
        exact List.cons_prefix_cons.mpr ⟨rfl, List.nil_prefix⟩
      · rw [if_neg hc, List.modifyHead_cons, List.map_cons, hfirst]
        split
        · exact List.cons_prefix_cons.mpr ⟨rfl, List.nil_prefix⟩
        · next hsolid =>
          have hone : pieces [c] = [[c]] := by
            rw [pieces_cons, if_neg hc]
            rfl
          rw [hone, List.map_singleton, trimEnd_cons]
          simp [hsolid, trimEnd, dropEndWhile]
    · rw [if_neg hnil, pieces_cons, ht]
      by_cases hc : c = '\n'
      · rw [if_pos hc, if_pos hc]
        exact List.cons_prefix_cons.mpr ⟨rfl, List.cons_prefix_cons.mpr ⟨hline, hrest⟩⟩
      · rw [if_neg hc, if_neg hc]
        exact List.cons_prefix_cons.mpr ⟨trimEnd_cons_congr hline c, hrest⟩

/-- What holds of all lines and only depends on the trimmed line still holds once the text is trimmed
at its end. -/
theorem forall_pieces_trimEnd {P : List Char → Prop} (h : ∀ line ∈ lines s, P (trim line))
    (hempty : P []) : ∀ line ∈ pieces (trimEnd s), P (trim line) := by
  have hall : ∀ line ∈ pieces s, P (trim line) :=
    (forall_lines (P := fun line => P (trim line))
      (fun line => by rw [trim_congr (trimEnd_dropReturn line)]) hempty s).mp h
  intro line hline
  obtain ⟨other, hother, heq⟩ :=
    List.mem_map.mp ((pieces_trimEnd s).subset (List.mem_map_of_mem hline))
  rw [← trim_congr heq]
  exact hall other hother

end IncludeRules.Text
