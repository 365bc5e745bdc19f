import IncludeRules.Proofs.Octets.Strict
import IncludeRules.Proofs.Text.Lines

/-! The lenient reading keeps lines apart: a line feed ends whatever was left unfinished before it,
and no other octets are read as one. -/

namespace IncludeRules.Octets

variable {state : Option Unfinished} {seen line : Octets} {x : UInt8}

def lineFeed : UInt8 := 0x0A

def carriageReturn : UInt8 := 0x0D

/-- The octets with a carriage return before every line feed. -/
def withReturns (b : Octets) : Octets :=
  b.flatMap fun x => if x = lineFeed then [carriageReturn, lineFeed] else [x]

/-- Some octets lead to this state. -/
def Sound (state : Option Unfinished) : Prop :=
  ∃ seen, Holds state seen

theorem sound_none : Sound none :=
  ⟨[], rfl⟩

theorem first_keeps (x : UInt8) :
    Sound (first x).2 ∧ (.char '\n' ∈ (first x).1 → x = lineFeed) := by
  rcases first_cases x with ⟨u, hu, hstarts⟩ | ⟨c, hc, hencode⟩ | hstray
  · rw [hu]
    exact ⟨⟨[x], hstarts⟩, fun hmem => nomatch hmem⟩
  · rw [hc]
    refine ⟨sound_none, fun hmem => ?_⟩
    cases List.mem_singleton.mp hmem
    exact (List.cons.inj hencode).1.symm
  · rw [hstray]
    exact ⟨sound_none, fun hmem => nomatch List.mem_singleton.mp hmem⟩

/-- One octet keeps the state sound, and only a line feed is read as a line feed. -/
theorem step_keeps (h : Sound state) (x : UInt8) :
    Sound (step state x).2 ∧ (.char '\n' ∈ (step state x).1 → x = lineFeed) := by
  obtain ⟨seen, hseen⟩ := h
  rcases step_cases hseen x with
    ⟨u, hu, hstarts⟩ | ⟨c, hc, hencode⟩ | ⟨n, pieces, next, hstray, hafter⟩
  · rw [hu]
    exact ⟨⟨seen ++ [x], hstarts⟩, fun hmem => nomatch hmem⟩
  · rw [hc]
    refine ⟨sound_none, fun hmem => ?_⟩
    cases List.mem_singleton.mp hmem
    -- the only octet of a line feed is itself
    have hlast := congrArg List.getLast? hencode
    rw [List.getLast?_concat] at hlast
    exact (Option.some.inj hlast).symm
  · rw [hstray]
    rcases hafter with hnone | hfirst
    · obtain ⟨rfl, rfl⟩ := Prod.mk.inj hnone
      exact ⟨sound_none, fun hmem => nomatch List.mem_singleton.mp hmem⟩
    · have hkeeps := first_keeps x
      rw [← hfirst] at hkeeps
      refine ⟨hkeeps.1, fun hmem => ?_⟩
      rcases List.mem_cons.mp hmem with hmem | hmem
      · cases hmem
      · exact hkeeps.2 hmem

/-- An octet below 0x80 is a character of its own, whatever is unfinished before it. -/
theorem step_ascii (h : Sound state) (hx : x.toNat < 0x80) :
    step state x = (state.toList.map (.stray ·.seen) ++ [.char (.ofNat x.toNat)], none) := by
  have hfirst : first x = ([.char (.ofNat x.toNat)], none) := by
    rw [first]
    dsimp only
    rw [if_pos hx]
  cases state with
  | none => exact hfirst
  | some u =>
    obtain ⟨seen, hseen⟩ := h
    have hstarts : Starts u seen := hseen
    have hwithin : ¬(u.low ≤ x ∧ x ≤ u.high) := by
      intro hwithin
      have hlow := UInt8.le_iff_toNat_le.mp hwithin.1
      have hlow_ge := hstarts.low_ge
      omega
    simp only [step, if_neg hwithin, hfirst]
    rfl

/-- What stands before and after such an octet is read as if it stood alone. -/
theorem lenientFrom_append_ascii (h : Sound state) (hx : x.toNat < 0x80) (a b : Octets) :
    lenientFrom state (a ++ x :: b) =
      lenientFrom state a ++ .ofNat x.toNat :: lenientFrom none b := by
  induction a generalizing state with
  | nil =>
    rw [List.nil_append, lenientFrom_cons, step_ascii h hx]
    cases state <;> rfl
  | cons y a ih =>
    rw [List.cons_append, lenientFrom_cons, lenientFrom_cons, ih (step_keeps h y).1,
      List.append_assoc]

theorem lenientFrom_append_lineFeed (a b : Octets) :
    lenientFrom none (a ++ lineFeed :: b) = lenientFrom none a ++ '\n' :: lenientFrom none b :=
  lenientFrom_append_ascii sound_none (by decide) a b

theorem lenientFrom_concat_return (a : Octets) :
    lenientFrom none (a ++ [carriageReturn]) = lenientFrom none a ++ ['\r'] :=
  lenientFrom_append_ascii sound_none (by decide) a []

/-- No line feed is read where there is none. -/
theorem notMem_lenientFrom (h : Sound state) (hline : lineFeed ∉ line) :
    '\n' ∉ lenientFrom state line := by
  have hreplacement : replacement ≠ '\n' := by decide
  induction line generalizing state with
  | nil =>
    cases state with
    | none => exact List.not_mem_nil
    | some u => exact fun hmem => hreplacement (List.mem_singleton.mp hmem).symm
  | cons x line ih =>
    have hkeeps := step_keeps h x
    intro hmem
    rw [lenientFrom_cons] at hmem
    rcases List.mem_append.mp hmem with hmem | hmem
    · obtain ⟨piece, hpiece, hchar⟩ := List.mem_map.mp hmem
      cases piece with
      | char c =>
        cases hchar
        exact hline (hkeeps.2 hpiece ▸ List.mem_cons_self)
      | stray n => exact hreplacement hchar
    · exact ih hkeeps.1 (fun hrest => hline (List.mem_cons_of_mem x hrest)) hmem

/-- Octets are a last line, or a line, a line feed and more octets. -/
theorem line_induction {P : Octets → Prop} (last : ∀ line, lineFeed ∉ line → P line)
    (ended : ∀ line rest, lineFeed ∉ line → P rest → P (line ++ lineFeed :: rest)) (b : Octets) :
    P b := by
  induction hn : b.length using Nat.strong_induction_on generalizing b with
  | _ n ih =>
    by_cases hmem : lineFeed ∈ b
    · obtain ⟨line, rest, rfl, hline⟩ := List.eq_append_cons_of_mem hmem
      refine ended line rest hline (ih rest.length ?_ rest rfl)
      rw [← hn, List.length_append, List.length_cons]
      omega
    · exact last b hmem

/-- The lines of what is read are the lines of the octets, each read by itself. -/
theorem pieces_lenientFrom (b : Octets) :
    Text.pieces (lenientFrom none b) = (b.splitOn lineFeed).map (lenientFrom none) := by
  have hone (line : Octets) (hline : lineFeed ∉ line) :
      Text.pieces (lenientFrom none line) = (line.splitOn lineFeed).map (lenientFrom none) := by
    rw [Text.pieces_eq_singleton (notMem_lenientFrom sound_none hline),
      List.splitOn_eq_singleton hline, List.map_singleton]
  induction b using line_induction with
  | last line hline => exact hone line hline
  | ended line rest hline ih =>
    rw [lenientFrom_append_lineFeed, Text.pieces_append, List.splitOn_append_cons_self,
      List.map_append, ih, hone line hline]

theorem withReturns_line (h : lineFeed ∉ line) : withReturns line = line := by
  induction line with
  | nil => rfl
  | cons x line ih =>
    rw [List.mem_cons, not_or] at h
    rw [withReturns, List.flatMap_cons, if_neg (Ne.symm h.1)]
    exact congrArg (x :: ·) (ih h.2)

theorem withReturns_append (h : lineFeed ∉ line) (rest : Octets) :
    withReturns (line ++ lineFeed :: rest) =
      (line ++ [carriageReturn]) ++ lineFeed :: withReturns rest := by
  have hline := withReturns_line h
  rw [withReturns] at hline
  rw [withReturns, List.flatMap_append, hline, List.append_assoc]
  rfl

end IncludeRules.Octets
