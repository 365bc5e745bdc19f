import IncludeRules.Proofs.Text.Lines
import IncludeRules.Rule.Extract
import IncludeRules.Rule.Fragment
import Mathlib.Tactic.MkIffOfInductiveProp

/-! Reading back the text of rules, line by line. -/

namespace IncludeRules.Rule

open Text

variable {line o p mark : List Char} {d : Draft} {ds : List Draft}

theorem isKept_toList_iff {p : String} :
    isKept p.toList = true ↔ p ≠ ":" ∧ ¬"/usr/".toList <:+: p.toList := by
  have hcolon : p.toList = [':'] ↔ p = ":" :=
    ⟨fun h => String.toList_injective h, fun h => congrArg String.toList h⟩
  rw [isKept, Bool.and_eq_true, bne_iff_ne, Bool.not_eq_true', ← Bool.not_eq_true,
    contains_iff_infix, Ne, Ne, hcolon]

/-- What is read of a prerequisite that stands on a line of its own. Backslashes at its end are
layout there, and a number sign at its start makes the line a comment. -/
def reread? (p : List Char) : Option (List Char) :=
  let name := dropEndWhile (· == '\\') p
  if name = [] ∨ name.head? = some '#' ∨ isKept name = false then none else some name

theorem reread?_eq_some_iff {q : List Char} :
    reread? p = some q ↔
      dropEndWhile (· == '\\') p = q ∧ q ≠ [] ∧ q.head? ≠ some '#' ∧ isKept q = true := by
  unfold reread?
  dsimp only
  constructor
  · intro h
    split at h
    · cases h
    · next hread =>
      obtain rfl := Option.some.inj h
      rw [not_or, not_or, Bool.not_eq_false] at hread
      exact ⟨rfl, hread⟩
  · rintro ⟨rfl, hread⟩
    rw [if_neg]
    rwa [not_or, not_or, Bool.not_eq_false]

/-- A name on a line of its own is the content of the line, but for backslashes at its end. -/
theorem content_written (indent : List Char) (hindent : ∀ c ∈ indent, isBlank c = true)
    (hp : Solid p) (hmark : mark = [] ∨ mark = [' ', '\\']) :
    content (indent ++ (p ++ mark)) = dropEndWhile (· == '\\') p := by
  have hsame : ∀ c ∈ p, (c == '\\' || c == ' ') = (c == '\\') := by
    intro c hc
    have hblank := hp c hc
    by_cases hspace : c = ' '
    · subst hspace
      cases hblank
    · simp [hspace]
  rw [content, trim, List.dropWhile_append_of_pos hindent, ← dropEndWhile_congr hsame]
  cases p with
  | nil => rcases hmark with rfl | rfl <;> decide
  | cons c p =>
    have hc : ¬isBlank c = true := by simp [hp c List.mem_cons_self]
    rw [List.cons_append, List.dropWhile_cons_of_neg hc, ← List.cons_append]
    rcases hmark with rfl | rfl
    · rw [List.append_nil, hp.trimEnd]
    · have hsplit : c :: p ++ [' ', '\\'] = (c :: p ++ [' ']) ++ ['\\'] := by simp
      rw [hsplit, trimEnd, dropEndWhile_concat_neg rfl, dropEndWhile_concat_pos rfl,
        dropEndWhile_concat_pos rfl]

theorem readLine_skip (h : (content line).head? = none ∨ (content line).head? = some '#') :
    readLine ds line = ds := by
  rw [readLine]
  rcases h with h | h
  · rw [List.head?_eq_none_iff] at h
    simp [h]
  · simp [h]

theorem readLine_nil (ds : List Draft) : readLine ds [] = ds :=
  readLine_skip (Or.inl rfl)

/-- The rule with more prerequisites, but for names that are dropped. -/
def Draft.add (d : Draft) (names : List (List Char)) : Draft :=
  { d with prerequisites := d.prerequisites ++ names.filter isKept }

theorem Draft.add_nil (d : Draft) : d.add [] = d := by
  simp [add]

theorem Draft.add_append (d : Draft) (names later : List (List Char)) :
    d.add (names ++ later) = (d.add names).add later := by
  simp [add]

/-- What the names of a line come to, by whether the line can go on with the last rule. -/
def readNames (indented : Bool) (drafts : List Draft) (names : List (List Char)) : List Draft :=
  match indented, drafts with
  | true, d :: ds => d.add names :: ds
  | _, _ =>
    match names with
    | [] => drafts
    | object :: rest => Draft.add ⟨dropEndWhile (· == ':') object, []⟩ rest :: drafts

theorem readNames_true (names : List (List Char)) :
    readNames true (d :: ds) names = d.add names :: ds := rfl

theorem readNames_false (o : List Char) (names : List (List Char)) :
    readNames false ds (o :: names) = Draft.add ⟨dropEndWhile (· == ':') o, []⟩ names :: ds := rfl

theorem readNames_nil (indented : Bool) (ds : List Draft) : readNames indented ds [] = ds := by
  cases indented with
  | false => rfl
  | true =>
    cases ds with
    | nil => rfl
    | cons d ds => rw [readNames_true, d.add_nil]

/-- Of a line that is no comment, only the names and the indentation matter. -/
theorem readLine_eq_readNames (h : (content line).head? ≠ some '#') :
    readLine ds line = readNames (continues line) ds (words (content line)) := by
  by_cases hnil : content line = []
  · rw [readLine_skip (Or.inl (by rw [hnil, List.head?_nil])), hnil]
    exact (readNames_nil _ _).symm
  · rw [readLine]
    simp only [h, hnil, List.isEmpty_iff, beq_iff_eq, Bool.or_eq_true, or_self, if_false]
    rfl

/-- The line of a prerequisite adds what is read of it to the rule at hand. -/
theorem readLine_prerequisite (hp : Solid p) (hmark : mark = [] ∨ mark = [' ', '\\']) :
    readLine (d :: ds) ('\t' :: p ++ mark) =
      { d with prerequisites := d.prerequisites ++ (reread? p).toList } :: ds := by
  have htab : ∀ c ∈ ['\t'], isBlank c = true := by
    intro c hc
    cases List.mem_singleton.mp hc
    rfl
  have hline : content ('\t' :: p ++ mark) = dropEndWhile (· == '\\') p :=
    content_written ['\t'] htab hp hmark
  have hcont : continues ('\t' :: p ++ mark) = true := rfl
  rw [reread?]
  by_cases hnil : dropEndWhile (· == '\\') p = []
  · rw [readLine_skip (Or.inl (by rw [hline, hnil, List.head?_nil]))]
    simp [hnil]
  by_cases hcomment : (dropEndWhile (· == '\\') p).head? = some '#'
  · rw [readLine_skip (Or.inr (by rw [hline, hcomment]))]
    simp [hcomment]
  rw [readLine_eq_readNames (by rwa [hline]), hline, words_of_solid hp.dropEndWhile hnil, hcont,
    readNames_true, Draft.add]
  cases hkept : isKept (dropEndWhile (· == '\\') p) <;> simp [hnil, hcomment, hkept]

/-- The line of an object starts a rule. -/
theorem readLine_object (ho : Solid o) (hcomment : o.head? ≠ some '#')
    (hmark : mark = [] ∨ mark = [' ', '\\']) :
    readLine ds (o ++ [':'] ++ mark) = ⟨dropEndWhile (· == ':') o, []⟩ :: ds := by
  have hsolid : Solid (o ++ [':']) := ho.append (by decide)
  have hline : content (o ++ [':'] ++ mark) = o ++ [':'] :=
    (content_written [] (by simp) hsolid hmark).trans (dropEndWhile_concat_neg rfl o)
  have hhead : (o ++ [':']).head? ≠ some '#' ∧ continues (o ++ [':'] ++ mark) = false := by
    cases o with
    | nil => exact ⟨by decide, rfl⟩
    | cons c o =>
      have hc := ho c List.mem_cons_self
      refine ⟨by simpa using hcomment, ?_⟩
      have hspace : c ≠ ' ' := by
        rintro rfl
        cases hc
      have htab : c ≠ '\t' := by
        rintro rfl
        cases hc
      simp [continues, hspace, htab]
  rw [readLine_eq_readNames (by rw [hline]; exact hhead.1), hline,
    words_of_solid hsolid (by simp), hhead.2, readNames_false, dropEndWhile_concat_pos rfl,
    Draft.add_nil]

theorem content_dropReturn (line : List Char) : content (dropReturn line) = content line := by
  rw [content, content, trim_congr (trimEnd_dropReturn line)]

theorem readLine_dropReturn (ds : List Draft) (line : List Char) :
    readLine ds (dropReturn line) = readLine ds line := by
  have hcont : continues (dropReturn line) = continues line := by
    unfold dropReturn
    split
    · next h =>
      obtain ⟨front, rfl⟩ := List.getLast?_eq_some_iff.mp h
      rw [List.dropLast_concat]
      cases front <;> rfl
    · rfl
  rw [readLine, readLine, content_dropReturn, hcont]

/-- How lines end does not matter to a reader of rules. -/
theorem extract_eq_foldl_pieces (text : String) :
    extract text = ((pieces text.toList).foldl readLine []).reverse.map Draft.rule := by
  rw [extract, foldl_lines readLine_dropReturn readLine_nil]

/-- The lines of prerequisites, from the end of the line before them on. That line reads alike with
and without a mark that another line follows. -/
theorem foldl_prerequisites {ds' : List Draft} (ps : List (List Char)) (hps : ∀ p ∈ ps, Solid p)
    (hline : '\n' ∉ line)
    (hread : ∀ mark, mark = [] ∨ mark = [' ', '\\'] → readLine ds (line ++ mark) = d :: ds')
    (rest : List Char) :
    (pieces (line ++ (ps.flatMap ([' ', '\\', '\n', '\t'] ++ ·) ++ '\n' :: rest))).foldl readLine ds =
      (pieces rest).foldl readLine
        ({ d with prerequisites := d.prerequisites ++ ps.filterMap reread? } :: ds') := by
  induction ps generalizing line d ds ds' with
  | nil =>
    have hplain := hread [] (Or.inl rfl)
    rw [List.append_nil] at hplain
    rw [List.flatMap_nil, List.nil_append, pieces_line hline, List.foldl_cons, hplain]
    simp
  | cons p ps ih =>
    have hp := hps p List.mem_cons_self
    have hmarked : '\n' ∉ line ++ [' ', '\\'] := by simp [hline]
    have hp' : '\n' ∉ '\t' :: p := by
      rw [List.mem_cons, not_or]
      exact ⟨by decide, fun h => nomatch hp _ h⟩
    have hsplit : line ++ ((p :: ps).flatMap ([' ', '\\', '\n', '\t'] ++ ·) ++ '\n' :: rest) =
        line ++ [' ', '\\'] ++ '\n' ::
          ('\t' :: p ++ (ps.flatMap ([' ', '\\', '\n', '\t'] ++ ·) ++ '\n' :: rest)) := by
      simp
    rw [hsplit, pieces_line hmarked, List.foldl_cons, hread _ (Or.inr rfl),
      ih (fun q hq => hps q (List.mem_cons_of_mem _ hq)) hp'
        (fun mark hmark => readLine_prerequisite hp hmark)]
    cases h : reread? p <;> simp [h]

/-- A name that can stand before a colon: it has no blanks and is neither taken for a comment nor
for a shorter name with the colon. -/
@[mk_iff]
structure IsObject (o : String) : Prop where
  solid : Solid o.toList
  noComment : o.toList.head? ≠ some '#'
  noColon : o.toList.getLast? ≠ some ':'

instance (o : String) : Decidable (IsObject o) :=
  decidable_of_iff' _ (isObject_iff o)

/-- A rule as it is read back from its own text. -/
def reread (r : Rule) : Rule :=
  .ofPrerequisites r.object (r.prerequisites.filterMap fun p => (reread? p.toList).map .ofList)

/-- The same rule before it is taken for read. -/
def rereadDraft (r : Rule) : Draft :=
  ⟨r.object.toList, (r.prerequisites.map String.toList).filterMap reread?⟩

theorem rule_rereadDraft (r : Rule) : r.rereadDraft.rule = r.reread := by
  simp [rereadDraft, Draft.rule, reread, List.filterMap_map, List.map_filterMap]

theorem toList_renderOne (r : Rule) :
    (renderOne r).toList = r.object.toList ++ [':'] ++
      ((r.prerequisites.map String.toList).flatMap ([' ', '\\', '\n', '\t'] ++ ·) ++ ['\n']) := by
  rw [renderOne, String.toList_append, String.toList_append, String.toList_append,
    String.toList_join, List.flatMap_map, List.flatMap_map, List.append_assoc]
  simp only [String.toList_append]
  rfl

/-- The text of one rule is read as that rule. -/
theorem foldl_renderOne {r : Rule} (ho : IsObject r.object)
    (hps : ∀ p ∈ r.prerequisites, Solid p.toList) (rest : List Char) :
    (pieces ((renderOne r).toList ++ rest)).foldl readLine ds =
      (pieces rest).foldl readLine (r.rereadDraft :: ds) := by
  have hline : '\n' ∉ r.object.toList ++ [':'] := by
    rw [List.mem_append, not_or]
    exact ⟨fun h => (nomatch ho.solid _ h), by decide⟩
  have hnames : ∀ p ∈ r.prerequisites.map String.toList, Solid p := by
    simpa using hps
  have hobject : dropEndWhile (· == ':') r.object.toList = r.object.toList :=
    dropEndWhile_beq_eq_self_iff.mpr ho.noColon
  have htext : (renderOne r).toList ++ rest = r.object.toList ++ [':'] ++
      ((r.prerequisites.map String.toList).flatMap ([' ', '\\', '\n', '\t'] ++ ·) ++
        '\n' :: rest) := by
    simp [toList_renderOne]
  rw [htext, foldl_prerequisites _ hnames hline fun mark hmark =>
    readLine_object ho.solid ho.noComment hmark, hobject]
  rfl

theorem foldl_render {rules : List Rule} (hobj : ∀ r ∈ rules, IsObject r.object)
    (hps : ∀ r ∈ rules, ∀ p ∈ r.prerequisites, Solid p.toList) :
    (pieces (render rules).toList).foldl readLine ds = (rules.map rereadDraft).reverse ++ ds := by
  induction rules generalizing ds with
  | nil => exact readLine_nil ds
  | cons r rules ih =>
    have hrender : (render (r :: rules)).toList = (renderOne r).toList ++ (render rules).toList := by
      simp [render, String.toList_join]
    rw [hrender, foldl_renderOne (hobj r List.mem_cons_self) (hps r List.mem_cons_self),
      ih (fun q hq => hobj q (List.mem_cons_of_mem _ hq))
        fun q hq => hps q (List.mem_cons_of_mem _ hq)]
    simp

/-- A comment of a fragment: each of its lines is blank or starts with a number sign, blanks before
it apart. -/
def IsComment (comment : String) : Prop :=
  ∀ line ∈ lines comment.toList, trim line = [] ∨ (trim line).head? = some '#'

instance (comment : String) : Decidable (IsComment comment) :=
  List.decidableBAll _ (lines comment.toList)

theorem readLine_comment (h : trim line = [] ∨ (trim line).head? = some '#') :
    readLine ds line = ds := by
  apply readLine_skip
  rw [content]
  rcases h with h | h
  · exact Or.inl (by rw [h]; rfl)
  · exact Or.inr (head?_dropEndWhile h rfl)

/-- The lines of a comment that is trimmed at its end are still blank or comments. -/
theorem foldl_comment {comment : String} (h : IsComment comment) :
    (pieces (trimEnd comment.toList)).foldl readLine ds = ds := by
  have hlines := forall_pieces_trimEnd (P := fun t => t = [] ∨ t.head? = some '#') h (Or.inl rfl)
  generalize pieces (trimEnd comment.toList) = l at hlines
  induction l with
  | nil => rfl
  | cons line l ih =>
    rw [List.foldl_cons, readLine_comment (hlines line List.mem_cons_self)]
    exact ih fun other hother => hlines other (List.mem_cons_of_mem _ hother)

/-- A fragment is read as its rules, each as it is read back by itself. -/
theorem extract_fragment {rules : List Rule} {comment : String}
    (hobj : ∀ r ∈ rules, IsObject r.object)
    (hps : ∀ r ∈ rules, ∀ p ∈ r.prerequisites, Solid p.toList) (hcomment : IsComment comment) :
    extract (fragment rules comment) = rules.map reread := by
  have htext : (fragment rules comment).toList =
      trimEnd comment.toList ++ '\n' :: (render rules).toList := by
    simp [fragment]
  rw [extract_eq_foldl_pieces, htext, pieces_append, List.foldl_append, foldl_comment hcomment,
    foldl_render hobj hps]
  simp [rule_rereadDraft]

end IncludeRules.Rule
