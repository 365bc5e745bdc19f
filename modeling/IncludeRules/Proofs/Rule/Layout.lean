import IncludeRules.Proofs.Rule.Reread
import Mathlib.Data.List.Infix

/-! The ways to write a rule down, and that all of them are read alike. -/

namespace IncludeRules.Rule

open Text

/-- An object and all its prerequisites, as they are stated to a reader of rules. -/
structure Statement where
  object : String
  prerequisites : List String

/-- What is read of a statement. Headers of the system go wherever they stand, and the first
prerequisite that is left is the source. -/
def Statement.rule (s : Statement) : Rule :=
  .ofPrerequisites s.object (s.prerequisites.filter fun p => ¬"/usr/".toList <:+: p.toList)

/-- A name that is neither taken apart nor for a comment and shares no character with the mark that
another line follows. -/
@[mk_iff]
structure IsWord (name : List Char) : Prop where
  ne_nil : name ≠ []
  solid : Solid name
  noMark : '\\' ∉ name
  noComment : name.head? ≠ some '#'

instance (name : List Char) : Decidable (IsWord name) :=
  decidable_of_iff' _ (isWord_iff name)

@[mk_iff]
structure Statement.Writable (s : Statement) : Prop where
  object : IsWord s.object.toList
  noColon : s.object.toList.getLast? ≠ some ':'
  prerequisites : ∀ p ∈ s.prerequisites, IsWord p.toList ∧ p ≠ ":"

instance (s : Statement) : Decidable s.Writable :=
  decidable_of_iff' _ s.writable_iff

/-- The two ways a line ends. -/
inductive LineEnd : List Char → Prop
  | feed : LineEnd ['\n']
  | returnFeed : LineEnd ['\r', '\n']

/-- A line that says nothing: a blank one, or a comment that is not indented. -/
@[mk_iff]
structure IdleLine (line : List Char) : Prop where
  noBreak : '\n' ∉ line
  idle : (∀ c ∈ line, isBlank c = true) ∨ line.head? = some '#'

instance (line : List Char) : Decidable (IdleLine line) :=
  have : Decidable (∀ c ∈ line, isBlank c = true) := List.decidableBAll _ line
  decidable_of_iff' _ (idleLine_iff line)

/-- Any number of lines that say nothing. -/
inductive Idle : List Char → Prop
  | nil : Idle []
  | line {line ending rest : List Char} :
    IdleLine line → LineEnd ending → Idle rest → Idle (line ++ (ending ++ rest))

/-- A blank that can stand between two names of a line, or where a line goes on with a rule. -/
def IsSpace (c : Char) : Prop :=
  c = ' ' ∨ c = '\t'

/-- What can separate two names: blanks, and breaks after which a line goes on. -/
inductive Gap : List Char → Prop
  | blank {c : Char} : IsSpace c → Gap [c]
  | broken {mark ending idle : List Char} {c : Char} :
    mark = [] ∨ mark = [' ', '\\'] → LineEnd ending → Idle idle → IsSpace c →
      Gap (mark ++ (ending ++ (idle ++ [c])))
  | append {gap gap' : List Char} : Gap gap → Gap gap' → Gap (gap ++ gap')

/-- Names, each with a gap before it, and maybe a gap after the last one. -/
inductive Listed : List String → List Char → Prop
  | nil : Listed [] []
  | trailing {gap : List Char} : Gap gap → Listed [] gap
  | cons {gap rest : List Char} {name : String} {names : List String} :
    Gap gap → Listed names rest → Listed (name :: names) (gap ++ (name.toList ++ rest))

/-- A rule in writing, up to the end of its last line. Its colon can stand apart from its object,
like a name of its own. -/
inductive Stated (s : Statement) : List Char → Prop
  | attached {rest : List Char} :
    Listed s.prerequisites rest → Stated s (s.object.toList ++ [':'] ++ rest)
  | apart {rest : List Char} :
    Listed (":" :: s.prerequisites) rest → Stated s (s.object.toList ++ rest)

/-- A text that states some rules in order. Its last line need not be ended. -/
inductive Layout : List Statement → List Char → Prop
  | nil {idle line : List Char} : Idle idle → IdleLine line → Layout [] (idle ++ line)
  | last {idle text : List Char} {s : Statement} :
    Idle idle → Stated s text → Layout [s] (idle ++ text)
  | cons {idle text ending rest : List Char} {s : Statement} {statements : List Statement} :
    Idle idle → Stated s text → LineEnd ending → Layout statements rest →
      Layout (s :: statements) (idle ++ (text ++ (ending ++ rest)))

variable {line name mark ending text gap : List Char} {c : Char} {d : Draft} {ds : List Draft}

theorem IsSpace.isBlank (h : IsSpace c) : isBlank c = true := by
  rcases h with rfl | rfl <;> rfl

theorem IsSpace.ne_break (h : IsSpace c) : '\n' ≠ c := by
  rcases h with rfl | rfl <;> decide

theorem IsSpace.ne_mark (h : IsSpace c) : '\\' ≠ c := by
  rcases h with rfl | rfl <;> decide

theorem IsWord.append_colon (h : IsWord name) : IsWord (name ++ [':']) := by
  constructor
  · simp
  · exact h.solid.append (by decide)
  · simp [h.noMark]
  · rw [List.head?_append_of_ne_nil _ h.ne_nil]
    exact h.noComment

theorem IsWord.noBreak (h : IsWord name) : '\n' ∉ name :=
  fun hmem => nomatch h.solid _ hmem

theorem continues_append (h : line ≠ []) (text : List Char) :
    continues (line ++ text) = continues line := by
  obtain ⟨c, line, rfl⟩ := List.exists_cons_of_ne_nil h
  rfl

/-- What the names of a line are, with or without the mark that another line follows. -/
theorem words_content (hline : '\\' ∉ line) (hmark : mark = [] ∨ mark = [' ', '\\']) :
    words (content (line ++ mark)) = words line := by
  -- Without a backslash only spaces can go from the end. Other blanks, a tab before the mark for
  -- one, are left there, and so the words are compared and not the texts.
  have hdrop : ∀ s : List Char, '\\' ∉ s →
      words (dropEndWhile (fun c => c == '\\' || c == ' ') s) = words s := by
    intro s hs
    apply words_dropEndWhile
    intro c hc hlayout
    have hne : c ≠ '\\' := fun h => hs (h ▸ hc)
    have hspace : c = ' ' := by simpa [hne] using hlayout
    rw [hspace]
    rfl
  rcases hmark with rfl | rfl
  · have htrim : '\\' ∉ trim line := by
      intro h
      exact hline ((List.dropWhile_suffix _).subset ((dropEndWhile_prefix_self _ _).subset h))
    rw [List.append_nil, content, hdrop _ htrim, words_trim]
  · have hfront : '\\' ∉ (line ++ [' ']).dropWhile isBlank := by
      intro h
      have hmem := (List.dropWhile_suffix _).subset h
      simp [hline] at hmem
    have hsplit : line ++ [' ', '\\'] = line ++ [' '] ++ ['\\'] := by simp
    rw [hsplit, content, trim_concat rfl, dropEndWhile_concat_pos rfl, hdrop _ hfront,
      words_dropWhile_blank, words_concat_blank rfl]

theorem head?_content (h : ∀ w ∈ words (content line), w.head? ≠ some '#') :
    (content line).head? ≠ some '#' := by
  intro hhead
  obtain ⟨rest, hline⟩ := List.head?_eq_some_iff.mp hhead
  have hsharp : Solid ['#'] := by decide
  obtain ⟨later, hwords⟩ := words_solid_append hsharp (List.cons_ne_nil _ _) rest
  rw [hline, ← List.singleton_append, hwords] at h
  exact h _ List.mem_cons_self rfl

/-- Where a reader stands in a text: the rules from the lines before, and what it has seen of the
line at hand. -/
structure Place where
  drafts : List Draft
  line : List Char

/-- What is read from a place on. -/
def Place.read (p : Place) (rest : List Char) : List Draft :=
  (pieces (p.line ++ rest)).foldl readLine p.drafts

/-- A text leads from one place to another, whatever stands after it. -/
def Place.Leads (p : Place) (text : List Char) (q : Place) : Prop :=
  ∀ rest, p.read (text ++ rest) = q.read rest

namespace Place

variable {p q r : Place}

theorem Leads.refl (p : Place) : p.Leads [] p :=
  fun _ => rfl

theorem Leads.trans {text' : List Char} (h : p.Leads text q) (h' : q.Leads text' r) :
    p.Leads (text ++ text') r := by
  intro rest
  rw [List.append_assoc, h, h']

theorem leads_append (p : Place) (text : List Char) :
    p.Leads text { p with line := p.line ++ text } := by
  intro rest
  rw [read, read, List.append_assoc]

/-- Where a line ends, it is read. A carriage return before the end does not matter. -/
theorem leads_lineEnd (h : LineEnd ending) (hline : '\n' ∉ p.line) :
    p.Leads ending ⟨readLine p.drafts p.line, []⟩ := by
  intro rest
  cases h with
  | feed =>
    rw [read, List.singleton_append, pieces_line hline]
    rfl
  | returnFeed =>
    have hreturn : '\n' ∉ p.line ++ ['\r'] := by simp [hline]
    have hdrop : dropReturn (p.line ++ ['\r']) = p.line := by simp [dropReturn]
    have hsplit : p.line ++ (['\r', '\n'] ++ rest) = p.line ++ ['\r'] ++ '\n' :: rest := by simp
    rw [read, hsplit, pieces_line hreturn, List.foldl_cons, ← readLine_dropReturn, hdrop]
    rfl

end Place

theorem IdleLine.readLine_eq (h : IdleLine line) : readLine ds line = ds := by
  apply readLine_comment
  rcases h.idle with hblank | hcomment
  · left
    rw [trim, List.dropWhile_eq_nil_iff.mpr hblank]
    rfl
  · right
    obtain ⟨rest, rfl⟩ := List.head?_eq_some_iff.mp hcomment
    exact head?_dropEndWhile rfl rfl

theorem Idle.leads (h : Idle text) : Place.Leads ⟨ds, []⟩ text ⟨ds, []⟩ := by
  induction h with
  | nil => exact .refl _
  | @line line ending rest hline hend _ ih =>
    have hwhole : Place.Leads ⟨ds, line⟩ ending ⟨readLine ds line, []⟩ :=
      Place.leads_lineEnd hend hline.noBreak
    rw [hline.readLine_eq] at hwhole
    exact (Place.leads_append ⟨ds, []⟩ line).trans (hwhole.trans ih)

/-- The line at hand belongs to the rule `d`: with more names on it, these go to the rule. -/
structure Place.Within (p : Place) (d : Draft) (ds : List Draft) : Prop where
  ne_nil : p.line ≠ []
  noBreak : '\n' ∉ p.line
  noMark : '\\' ∉ p.line
  noComment : ∀ w ∈ words p.line, w.head? ≠ some '#'
  names : ∀ names, readNames (continues p.line) p.drafts (words p.line ++ names) = d.add names :: ds

/-- What is written next on the line stands apart from the names before it. -/
def Place.Apart (p : Place) : Prop :=
  ∀ later, words (p.line ++ later) = words p.line ++ words later

theorem apart_append_space (hc : IsSpace c) (line : List Char) : Place.Apart ⟨ds, line ++ [c]⟩ := by
  intro later
  rw [words_concat_blank hc.isBlank, List.append_assoc, List.singleton_append,
    words_append_blank hc.isBlank]

namespace Place.Within

variable {p : Place}

theorem readLine_eq (h : p.Within d ds) (hmark : mark = [] ∨ mark = [' ', '\\']) :
    readLine p.drafts (p.line ++ mark) = d :: ds := by
  have hwords : words (content (p.line ++ mark)) = words p.line := words_content h.noMark hmark
  have hnames := h.names []
  rw [List.append_nil, d.add_nil] at hnames
  rw [readLine_eq_readNames (head?_content (hwords ▸ h.noComment)), hwords,
    continues_append h.ne_nil, hnames]

theorem readLine_self (h : p.Within d ds) : readLine p.drafts p.line = d :: ds := by
  have hline := h.readLine_eq (Or.inl rfl)
  rwa [List.append_nil] at hline

theorem read_nil (h : p.Within d ds) : p.read [] = d :: ds := by
  rw [Place.read, List.append_nil, pieces_eq_singleton h.noBreak]
  exact h.readLine_self

/-- A blank after a name leaves the rule as it is. -/
theorem space_written (h : p.Within d ds) (hc : IsSpace c) :
    Place.Within ⟨p.drafts, p.line ++ [c]⟩ d ds := by
  constructor
  · simp
  · simp [h.noBreak, hc.ne_break]
  · simp [h.noMark, hc.ne_mark]
  · rw [words_concat_blank hc.isBlank]
    exact h.noComment
  · rw [words_concat_blank hc.isBlank, continues_append h.ne_nil]
    exact h.names

/-- A line that starts with a blank goes on with the rule before it. -/
theorem next (hc : IsSpace c) (d : Draft) (ds : List Draft) : Place.Within ⟨d :: ds, [c]⟩ d ds := by
  have hwords : words [c] = [] := words_concat_blank hc.isBlank []
  have hcont : continues [c] = true := by rcases hc with rfl | rfl <;> rfl
  constructor
  · simp
  · simp [hc.ne_break]
  · simp [hc.ne_mark]
  · simp [hwords]
  · simp [hwords, hcont, readNames_true]

/-- A name that stands apart goes to the rule. -/
theorem name_written (h : p.Within d ds) (hapart : p.Apart) (hname : IsWord name) :
    Place.Within ⟨p.drafts, p.line ++ name⟩ (d.add [name]) ds := by
  have hwords : words (p.line ++ name) = words p.line ++ [name] := by
    rw [hapart, words_of_solid hname.solid hname.ne_nil]
  constructor
  · simp [h.ne_nil]
  · simp [h.noBreak, hname.noBreak]
  · simp [h.noMark, hname.noMark]
  · rw [hwords]
    intro w hw
    rcases List.mem_append.mp hw with hw | hw
    · exact h.noComment w hw
    · rw [List.mem_singleton.mp hw]
      exact hname.noComment
  · intro names
    rw [hwords, continues_append h.ne_nil, List.append_assoc, h.names, Draft.add_append]

/-- A name at the start of a line starts a rule. -/
theorem start (h : IsWord name) (ds : List Draft) :
    Place.Within ⟨ds, name⟩ ⟨dropEndWhile (· == ':') name, []⟩ ds := by
  have hwords : words name = [name] := words_of_solid h.solid h.ne_nil
  have hcont : continues name = false := by
    obtain ⟨first, rest, rfl⟩ := List.exists_cons_of_ne_nil h.ne_nil
    have hfirst : ¬IsSpace first := fun hspace =>
      nomatch hspace.isBlank.symm.trans (h.solid first List.mem_cons_self)
    rw [IsSpace, not_or] at hfirst
    simp [continues, hfirst]
  constructor
  · exact h.ne_nil
  · exact h.noBreak
  · exact h.noMark
  · rw [hwords]
    intro w hw
    rw [List.mem_singleton.mp hw]
    exact h.noComment
  · intro names
    rw [hwords, hcont]
    exact readNames_false name names

/-- A gap leads to where another name of the same rule can be written. -/
theorem gap_written (h : p.Within d ds) (hgap : Gap gap) :
    ∃ q, p.Leads gap q ∧ q.Within d ds ∧ q.Apart := by
  -- A break ends the line at hand, so that the rule is no longer on it but among the drafts. What
  -- stays as it is for the rest of the gap is the rule, not the place.
  induction hgap generalizing p with
  | blank hc =>
    exact ⟨_, p.leads_append _, h.space_written hc, apart_append_space hc _⟩
  | @broken mark ending idle c hmark hend hidle hc =>
    have hmarked : '\n' ∉ p.line ++ mark := by
      rcases hmark with rfl | rfl <;> simp [h.noBreak]
    have hended : Place.Leads ⟨p.drafts, p.line ++ mark⟩ ending ⟨d :: ds, []⟩ := by
      rw [← h.readLine_eq hmark]
      exact leads_lineEnd hend hmarked
    have hnext : Place.Leads ⟨d :: ds, []⟩ (idle ++ [c]) ⟨d :: ds, [c]⟩ :=
      hidle.leads.trans (leads_append _ [c])
    exact ⟨_, (p.leads_append mark).trans (hended.trans hnext), next hc d ds,
      apart_append_space hc []⟩
  | append _ _ ih ih' =>
    obtain ⟨q, hlead, hq, -⟩ := ih h
    obtain ⟨r, hlead', hr⟩ := ih' hq
    exact ⟨r, hlead.trans hlead', hr⟩

/-- Listed names go to the rule. -/
theorem listed_written {names : List String} (h : p.Within d ds) (hlisted : Listed names text)
    (hnames : ∀ n ∈ names, IsWord n.toList) :
    ∃ q, p.Leads text q ∧ q.Within (d.add (names.map String.toList)) ds := by
  induction hlisted generalizing p d with
  | nil =>
    rw [List.map_nil, d.add_nil]
    exact ⟨p, .refl p, h⟩
  | trailing hgap =>
    rw [List.map_nil, d.add_nil]
    obtain ⟨q, hlead, hq, -⟩ := h.gap_written hgap
    exact ⟨q, hlead, hq⟩
  | @cons gap rest name names hgap _ ih =>
    obtain ⟨q, hlead, hq, hapart⟩ := h.gap_written hgap
    have hnamed := hq.name_written hapart (hnames name List.mem_cons_self)
    obtain ⟨r, hlead', hr⟩ := ih hnamed fun n hn => hnames n (List.mem_cons_of_mem _ hn)
    rw [← Draft.add_append] at hr
    exact ⟨r, hlead.trans ((q.leads_append _).trans hlead'), hr⟩

end Place.Within

/-- A statement while it is read. -/
def Statement.draft (s : Statement) : Draft :=
  Draft.add ⟨s.object.toList, []⟩ (s.prerequisites.map String.toList)

theorem Statement.Writable.rule_draft {s : Statement} (h : s.Writable) : s.draft.rule = s.rule := by
  have hkept : ∀ p ∈ s.prerequisites,
      (isKept ∘ String.toList) p = decide (¬"/usr/".toList <:+: p.toList) := by
    intro p hp
    rw [Function.comp_apply, Bool.eq_iff_iff, isKept_toList_iff, decide_eq_true_iff]
    exact and_iff_right (h.prerequisites p hp).2
  rw [Statement.rule, ← List.filter_congr hkept]
  simp [Statement.draft, Draft.add, Draft.rule, List.filter_map]

/-- A rule in writing is read as its statement, to the end of its last line. -/
theorem Stated.leads {s : Statement} (h : Stated s text) (hs : s.Writable) (ds : List Draft) :
    ∃ q, Place.Leads ⟨ds, []⟩ text q ∧ q.Within s.draft ds := by
  have hobject : dropEndWhile (· == ':') s.object.toList = s.object.toList :=
    dropEndWhile_beq_eq_self_iff.mpr hs.noColon
  have hnames : ∀ p ∈ s.prerequisites, IsWord p.toList := fun p hp => (hs.prerequisites p hp).1
  cases h with
  | attached hlisted =>
    have hstart := Place.Within.start hs.object.append_colon ds
    rw [dropEndWhile_concat_pos rfl, hobject] at hstart
    obtain ⟨q, hlead, hq⟩ := hstart.listed_written hlisted hnames
    exact ⟨q, (Place.leads_append _ _).trans hlead, hq⟩
  | apart hlisted =>
    have hstart := Place.Within.start hs.object ds
    rw [hobject] at hstart
    obtain ⟨q, hlead, hq⟩ := hstart.listed_written hlisted
      (List.forall_mem_cons.mpr ⟨by decide, hnames⟩)
    exact ⟨q, (Place.leads_append _ _).trans hlead, hq⟩

/-- The rules of a text are read one after the other, each in any of the ways to write it. -/
theorem read_layout {statements : List Statement} (h : Layout statements text)
    (hs : ∀ s ∈ statements, s.Writable) :
    Place.read ⟨ds, []⟩ text = (statements.map Statement.draft).reverse ++ ds := by
  induction h generalizing ds with
  | @nil idle line hidle hline =>
    have hlast : Place.read ⟨ds, []⟩ line = ds := by
      rw [Place.read, List.nil_append, pieces_eq_singleton hline.noBreak]
      exact hline.readLine_eq
    rw [hidle.leads, hlast]
    rfl
  | last hidle hstated =>
    obtain ⟨q, hlead, hq⟩ := hstated.leads (hs _ List.mem_cons_self) ds
    have hall := hidle.leads.trans hlead []
    rw [List.append_nil, hq.read_nil] at hall
    exact hall
  | @cons idle text ending rest s statements hidle hstated hend _ ih =>
    obtain ⟨q, hlead, hq⟩ := hstated.leads (hs s List.mem_cons_self) ds
    have hended : q.Leads ending ⟨s.draft :: ds, []⟩ := by
      rw [← hq.readLine_self]
      exact Place.leads_lineEnd hend hq.noBreak
    have hall := hidle.leads.trans (hlead.trans hended) rest
    rw [List.append_assoc, List.append_assoc,
      ih fun other hother => hs other (List.mem_cons_of_mem _ hother)] at hall
    rw [hall]
    simp

/-- However rules are laid out in a text, they are what is read from it. -/
theorem extract_layout {statements : List Statement} {text : String}
    (hs : ∀ s ∈ statements, s.Writable) (h : Layout statements text.toList) :
    extract text = statements.map Statement.rule := by
  have hrules : statements.map (Draft.rule ∘ Statement.draft) = statements.map Statement.rule :=
    List.map_congr_left fun s hmem => (hs s hmem).rule_draft
  have hread : Place.read ⟨[], []⟩ text.toList = _ := read_layout h hs
  rw [List.append_nil, Place.read, List.nil_append] at hread
  rw [extract_eq_foldl_pieces, hread, List.reverse_reverse, List.map_map, hrules]

/-- Two rules whose lines are broken, ended and interrupted in all ways. -/
def scatteredLines : String :=
  "# made \\\r\n \t\nEditor.o: \\\r\n\n#one: two\n\t/usr/include/stdio.h\n  ../src/Editor.cxx\t" ++
    "/opt/usr/x.h \\\n \n a#b.h \r\nbare.o :\n"

def scatteredStatements : List Statement :=
  [⟨"Editor.o", ["/usr/include/stdio.h", "../src/Editor.cxx", "/opt/usr/x.h", "a#b.h"]⟩,
    ⟨"bare.o", []⟩]

theorem extract_layout_scatteredLines :
    ((∀ s ∈ scatteredStatements, s.Writable) ∧
      Layout scatteredStatements scatteredLines.toList) ∧
    extract scatteredLines =
      [⟨"Editor.o", some "../src/Editor.cxx", ["a#b.h"]⟩, ⟨"bare.o", none, []⟩] := by
  have hs : ∀ s ∈ scatteredStatements, s.Writable := by decide +kernel
  have hspace : IsSpace ' ' := .inl rfl
  have htab : IsSpace '\t' := .inr rfl
  have hcomment : IdleLine "# made \\".toList := by decide +kernel
  have hblank : IdleLine " \t".toList := by decide +kernel
  have hempty : IdleLine [] := by decide +kernel
  have hinner : IdleLine "#one: two".toList := by decide +kernel
  have hmarked : [' ', '\\'] = [] ∨ [' ', '\\'] = [' ', '\\'] := .inr rfl
  have hunmarked : ([] : List Char) = [] ∨ [] = [' ', '\\'] := .inl rfl
  have hnames : Listed ["/usr/include/stdio.h", "../src/Editor.cxx", "/opt/usr/x.h", "a#b.h"] _ :=
    .cons (.broken hmarked .returnFeed (.line hempty .feed (.line hinner .feed .nil)) htab) <|
    .cons (.append (.broken hunmarked .feed .nil hspace) (.blank hspace)) <|
    .cons (.blank htab) <|
    .cons (.append (.broken hmarked .feed .nil hspace) (.broken hunmarked .feed .nil hspace)) <|
    .trailing (.blank hspace)
  have hcolon : Listed [":"] _ := .cons (.blank hspace) .nil
  have hlayout : Layout scatteredStatements _ :=
    .cons (.line hcomment .returnFeed (.line hblank .feed .nil)) (.attached hnames) .returnFeed <|
    .cons .nil (.apart hcolon) .feed <|
    .nil .nil hempty
  have h : Layout scatteredStatements scatteredLines.toList := by
    refine (congrArg (Layout scatteredStatements) ?_).mp hlayout
    decide +kernel
  exact ⟨⟨hs, h⟩, (extract_layout hs h).trans (by decide +kernel)⟩

end IncludeRules.Rule
