import IncludeRules.Proofs.Octets.Lines
import IncludeRules.Scan.Directive

/-! What a single line adds to the names in a text, and in octets that are read as a text. -/

namespace IncludeRules.Scan

open Text

variable {line rest name : List Char} {b : Octets}

/-- The names on some lines, in order. -/
def namesOn (lines : List (List Char)) : List String :=
  lines.filterMap fun line => (includedName? line).map .ofList

/-- A line that begins with the keyword and goes on without a blank. -/
def Tight (line : List Char) : Prop :=
  ∃ c rest, trim line = keyword ++ c :: rest ∧ isBlank c = false

theorem includedName?_congr {other : List Char} (h : trim line = trim other) :
    includedName? line = includedName? other := by
  rw [includedName?, includedName?, h]

/-- The names of a text are those on the pieces between its line feeds. -/
theorem includedNames_ofList (s : List Char) : includedNames (.ofList s) = namesOn (pieces s) := by
  rw [includedNames, String.toList_ofList]
  refine filterMap_lines (fun line => ?_) rfl s
  rw [includedName?_congr (trim_congr (trimEnd_dropReturn line))]

theorem solid_keyword : Solid keyword := by decide

/-- What follows the keyword up to the next blank belongs to the first word. -/
theorem words_of_keyword (h : trim line = keyword ++ rest) :
    ∃ later, words line = (keyword ++ rest.takeWhile (!isBlank ·)) :: later := by
  rw [← words_trim, h]
  exact words_solid_append solid_keyword (by decide) rest

/-- A line begins with the keyword exactly when its first word does. -/
theorem keyword_prefix_iff :
    keyword <+: trim line ↔ ∃ first later, words line = first :: later ∧ keyword <+: first := by
  constructor
  · rintro ⟨rest, h⟩
    obtain ⟨later, hwords⟩ := words_of_keyword h.symm
    exact ⟨_, later, hwords, List.prefix_append _ _⟩
  · rintro ⟨first, later, hwords, hfirst⟩
    refine hfirst.trans ?_
    rw [← words_trim] at hwords
    cases hline : trim line with
    | nil =>
      rw [hline] at hwords
      cases hwords
    | cons c t =>
      have hc : Solid [c] := by
        intro d hd
        cases List.mem_singleton.mp hd
        exact head?_trim (by rw [hline]; rfl)
      obtain ⟨later', hword⟩ := words_solid_append hc (List.cons_ne_nil _ _) t
      rw [hline] at hwords
      obtain ⟨rfl, -⟩ := List.cons.inj (hword.symm.trans hwords)
      exact (List.prefix_append_right_inj [c]).mpr (List.takeWhile_prefix _)

/-- A line names what its second word says, whenever its first word begins with the keyword. -/
theorem includedName?_eq_some_iff :
    includedName? line = some name ↔
      ∃ first token later, words line = first :: token :: later ∧ keyword <+: first ∧
        token.head? ≠ some '<' ∧ unquote token = name ∧ name ≠ [] := by
  have hkeyword : keyword <+: trim line ↔
      ∃ first later, words line = first :: later ∧ keyword <+: first := keyword_prefix_iff
  simp only [includedName?, List.isPrefixOf_iff_prefix, words_trim]
  constructor
  · intro h
    split at h
    · next hkey =>
      obtain ⟨first, later, hwords, hfirst⟩ := hkeyword.mp hkey
      rw [hwords] at h
      cases later with
      | nil => cases h
      | cons token later =>
        dsimp only at h
        split at h
        · cases h
        · next hplain =>
          cases h
          rw [not_or] at hplain
          exact ⟨first, token, later, hwords, hfirst, hplain.1, rfl, hplain.2⟩
    · cases h
  · rintro ⟨first, token, later, hwords, hfirst, hbracket, rfl, hname⟩
    rw [if_pos (hkeyword.mpr ⟨first, _, hwords, hfirst⟩), hwords]
    dsimp only
    rw [if_neg (not_or.mpr ⟨hbracket, hname⟩)]

/-- In a tight line the first word is more than the keyword. -/
theorem tight_iff :
    Tight line ↔
      ∃ first later, words line = first :: later ∧ keyword <+: first ∧ first ≠ keyword := by
  constructor
  · rintro ⟨c, rest, hline, hc⟩
    obtain ⟨later, hwords⟩ := words_of_keyword hline
    refine ⟨_, later, hwords, List.prefix_append _ _, fun hsame => ?_⟩
    rw [List.takeWhile_cons_of_pos (by simp [hc])] at hsame
    cases List.append_right_eq_self.mp hsame
  · rintro ⟨first, later, hwords, hfirst, hmore⟩
    obtain ⟨rest, hrest⟩ := keyword_prefix_iff.mpr ⟨first, later, hwords, hfirst⟩
    obtain ⟨later', hword⟩ := words_of_keyword hrest.symm
    obtain ⟨rfl, -⟩ := List.cons.inj (hword.symm.trans hwords)
    cases rest with
    | nil => exact absurd (List.append_nil keyword) hmore
    | cons c rest =>
      refine ⟨c, rest, hrest.symm, ?_⟩
      cases hc : isBlank c with
      | false => rfl
      | true =>
        rw [List.takeWhile_cons_of_neg (by simp [hc])] at hmore
        exact absurd (List.append_nil keyword) hmore

/-- A line that is inserted into a text adds its own name and nothing else. It has one whenever its
first word begins with the keyword and its second word names no system header. The keyword need not
be the whole first word: in a tight line it is not, and such a line adds a name if it has a second
word of that kind. -/
theorem includedNames_insertLine (hline : '\n' ∉ line) (k : Nat) (s : List Char) :
    includedNames (.ofList s) = namesOn ((pieces s).take k) ++ namesOn ((pieces s).drop k) ∧
    includedNames (.ofList (insertLine k line s)) =
      namesOn ((pieces s).take k) ++ ((includedName? line).map .ofList).toList ++
        namesOn ((pieces s).drop k) ∧
    (∀ name, includedName? line = some name ↔
      ∃ first token later, words line = first :: token :: later ∧ keyword <+: first ∧
        token.head? ≠ some '<' ∧ unquote token = name ∧ name ≠ []) ∧
    (Tight line ↔ ∃ first later, words line = first :: later ∧ keyword <+: first ∧
      first ≠ keyword) := by
  refine ⟨?_, ?_, fun name => includedName?_eq_some_iff, tight_iff⟩
  · rw [includedNames_ofList, namesOn, namesOn, namesOn, ← List.filterMap_append,
      List.take_append_drop]
  · rw [includedNames_ofList, pieces_insertLine hline, namesOn, List.filterMap_append,
      List.filterMap_cons, List.append_assoc]
    cases (includedName? line).map String.ofList <;> rfl

/-- The second line of a text is read, whatever stands around the keyword and its name. -/
theorem includedNames_insertLine_spaced :
    let line := "  #include\t\"b.h\" // note".toList
    '\n' ∉ line ∧
      includedNames (.ofList (insertLine 1 line "#include \"a.h\"\n#include \"c.h\"\n".toList)) =
        ["a.h"] ++ ["b.h"] ++ ["c.h"] := by
  intro line
  have hline : '\n' ∉ line := by decide
  have hnames := includedNames_insertLine hline 1 "#include \"a.h\"\n#include \"c.h\"\n".toList
  exact ⟨hline, hnames.2.1.trans (by decide +kernel)⟩

/-- The comment after a tight line is taken for a name. -/
theorem includedNames_tight_comment :
    let line := "#include\"x.h\" // note".toList
    Tight line ∧ '\n' ∉ line ∧ includedNames "" = [] ∧
      includedNames (.ofList (insertLine 0 line [])) = ["//"] :=
  ⟨⟨'"', "x.h\" // note".toList, by decide +kernel, by decide⟩, by decide, by decide +kernel,
    by decide +kernel⟩

/-- The names in octets are those on their lines, each line read by itself. -/
theorem includedNames_lenient (b : Octets) :
    includedNames (Octets.lenient b) =
      namesOn ((b.splitOn Octets.lineFeed).map (Octets.lenientFrom none)) := by
  rw [Octets.lenient, includedNames_ofList, Octets.pieces_lenientFrom]

theorem includedName?_concat_return (line : List Char) :
    includedName? (line ++ ['\r']) = includedName? line :=
  includedName?_congr (trim_congr (dropEndWhile_concat_pos rfl line))

theorem includedNames_append_lineFeed (a b : Octets) :
    includedNames (Octets.lenient (a ++ Octets.lineFeed :: b)) =
      includedNames (Octets.lenient a) ++ includedNames (Octets.lenient b) := by
  simp only [includedNames_lenient, List.splitOn_append_cons_self, List.map_append, namesOn,
    List.filterMap_append]

theorem includedNames_concat_return (hline : Octets.lineFeed ∉ b) :
    includedNames (Octets.lenient (b ++ [Octets.carriageReturn])) =
      includedNames (Octets.lenient b) := by
  have hreturn : Octets.lineFeed ∉ b ++ [Octets.carriageReturn] := by
    rw [List.mem_append, not_or]
    exact ⟨hline, by decide⟩
  rw [includedNames_lenient, includedNames_lenient, List.splitOn_eq_singleton hline,
    List.splitOn_eq_singleton hreturn, List.map_singleton, List.map_singleton,
    Octets.lenientFrom_concat_return, namesOn, namesOn, List.filterMap_cons, List.filterMap_cons,
    includedName?_concat_return]

/-- Carriage returns at the ends of lines change no name. -/
theorem includedNames_withReturns (b : Octets) :
    includedNames (Octets.lenient (Octets.withReturns b)) = includedNames (Octets.lenient b) := by
  induction b using Octets.line_induction with
  | last line hline => rw [Octets.withReturns_line hline]
  | ended line rest hline ih =>
    rw [Octets.withReturns_append hline, includedNames_append_lineFeed,
      includedNames_append_lineFeed, includedNames_concat_return hline, ih]

/-- Octets that are no text stay on their line. The names on both sides of a line feed are those on
the one side and then those on the other, whatever stands there; line feeds may come with carriage
returns or without; and so the names are those of the lines, each line read as if there were no
other, with one name at most on each. -/
theorem includedNames_line_by_line (a b : Octets) :
    includedNames (Octets.lenient (a ++ Octets.lineFeed :: b)) =
        includedNames (Octets.lenient a) ++ includedNames (Octets.lenient b) ∧
      includedNames (Octets.lenient (Octets.withReturns b)) = includedNames (Octets.lenient b) ∧
      includedNames (Octets.lenient b) =
        namesOn ((b.splitOn Octets.lineFeed).map (Octets.lenientFrom none)) :=
  ⟨includedNames_append_lineFeed a b, includedNames_withReturns b, includedNames_lenient b⟩

/-- A character that a line feed cuts off leaves the next line as it is. -/
example :
    let comment := Octets.ofString "// caf" ++ [0xE9]
    let line := Octets.ofString "#include \"b.h\" // " ++ [0xF0, 0x9F]
    includedNames (Octets.lenient (comment ++ Octets.lineFeed :: line)) = ["b.h"] := by
  decide +kernel

end IncludeRules.Scan
