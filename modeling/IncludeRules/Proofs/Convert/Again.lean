import IncludeRules.Command.Convert
import IncludeRules.Proofs.Octets.RoundTrip
import IncludeRules.Proofs.Rule.NormalForm
import IncludeRules.Proofs.Store.Updates

/-! Converting what was converted. -/

namespace IncludeRules

open Rule

variable {s : Store} {input output : Path} {contents : Octets}

namespace Store

/-- A file that can be read is converted, unless what exists at the output is no file. -/
theorem convert_cases (h : s.octets? input = some contents) (output : Path) (c : Option String) :
    ∃ events,
      (∃ o t, (convert input output c).course fileSystem s = (⟨events, .done o⟩, t) ∧
        Updates output
          (.ofString (fragment (extract contents.lenient) (c.getD defaultComment))) s o t) ∨
      s.octets? output = none ∧
        ∃ e, (convert input output c).course fileSystem s = (⟨events, .failed e⟩, s) := by
  simp only [convert, Script.read, Script.call_bind, Script.done_bind, Script.course_call,
    answer_read_of_octets? h, Script.orFail_ok, updateRules]
  obtain ⟨events, ⟨o, t, hupdate, hupdates⟩ | ⟨-, hnone, hupdate⟩⟩ :=
    update_done_or_unreadable output
      (fragment (extract contents.lenient) (c.getD defaultComment)) s
  · rw [hupdate]
    exact ⟨_, Or.inl ⟨o, t, rfl, hupdates⟩⟩
  · rw [hupdate]
    exact ⟨_, Or.inr ⟨hnone, _, rfl⟩⟩

/-- A conversion that succeeds makes the output hold the rules of the input. -/
theorem convert_updates {c : Option String} {o : Outcome}
    (h : s.octets? input = some contents)
    (hdone : ((convert input output c).run fileSystem s).1.ending = .done o) :
    Updates output (.ofString (fragment (extract contents.lenient) (c.getD defaultComment))) s o
      ((convert input output c).run fileSystem s).2 := by
  obtain ⟨events, ⟨o', t, hcourse, hupdates⟩ | ⟨-, e, hcourse⟩⟩ := convert_cases h output c
  · rw [Script.run_of_course hcourse] at hdone ⊢
    cases hdone
    exact hupdates
  · rw [Script.run_of_course hcourse] at hdone
    cases hdone

/-- A file is converted in place. -/
theorem convert_in_place (h : s.octets? output = some contents) (c : Option String) :
    ∃ o, ((convert output output c).run fileSystem s).1.ending = .done o := by
  obtain ⟨events, ⟨o, t, hcourse, -⟩ | ⟨hnone, -⟩⟩ := convert_cases h output c
  · exact ⟨o, by rw [Script.run_of_course hcourse]; rfl⟩
  · cases hnone.symm.trans h

end Store

/-- Rules that were read are written and read again. Prerequisites lose the backslashes at their ends
then. Those that start with a number sign are lost, and so are those of which nothing or a lone colon
is left. All others stay as they are, and so do all objects. What is read then is read the same way
ever after. A file that was made by a conversion can be converted in place, which leaves it alone from
the second time on, and from the first time on if nothing is lost. -/
theorem convert_normal_form {comment : String} (hcomment : IsComment comment) (text : String) :
    let rules := extract text
    let again := rules.map reread
    extract (fragment rules comment) = again ∧
    (again = rules ↔ Plain rules) ∧
    (∀ other, IsComment other → extract (fragment again other) = again) ∧
    ∀ (s : Store) (input output : Path) (c : Option String) (contents : Octets) (o : Outcome),
      s.octets? input = some contents → contents.lenient = text → c.getD defaultComment = comment →
      let first := (convert input output c).run Store.fileSystem s
      let second := (convert output output c).run Store.fileSystem first.2
      let third := (convert output output c).run Store.fileSystem second.2
      first.1.ending = .done o →
        first.2.octets? output = some (.ofString (fragment rules comment)) ∧
        (∃ o', second.1.ending = .done o') ∧
        second.2.octets? output = some (.ofString (fragment again comment)) ∧
        (Plain rules → second.1.ending = .done .unchanged ∧ second.2 = first.2) ∧
        third.1.ending = .done .unchanged ∧ third.2 = second.2 := by
  intro rules again
  have hread : extract (fragment rules comment) = again := extract_fragment_extract text hcomment
  have hplain : again = rules ↔ Plain rules := map_reread_eq_self_iff text
  have hfixed : ∀ other, IsComment other → extract (fragment again other) = again := by
    intro other hother
    have hagain : Plain (extract (fragment rules comment)) := hread ▸ plain_map_reread rules
    rw [← hread, extract_fragment_extract _ hother, map_reread_eq_self_iff]
    exact hagain
  refine ⟨hread, hplain, hfixed, ?_⟩
  rintro s input output c contents o hinput rfl rfl first second third hfirst
  have hheld := (Store.convert_updates hinput hfirst).octets?_self
  obtain ⟨o', hsecond⟩ := Store.convert_in_place hheld c
  have hagain := Store.convert_updates hheld hsecond
  rw [Octets.lenient_ofString, hread] at hagain
  obtain ⟨o'', hthird⟩ := Store.convert_in_place hagain.octets?_self c
  have hlast := Store.convert_updates hagain.octets?_self hthird
  rw [Octets.lenient_ofString, hfixed _ hcomment] at hlast
  obtain ⟨rfl, hstore⟩ := hlast.of_held hagain.octets?_self
  refine ⟨hheld, ⟨o', hsecond⟩, hagain.octets?_self, fun h => ?_, hthird, hstore⟩
  rw [hplain.mpr h] at hagain
  obtain ⟨rfl, hsame⟩ := hagain.of_held hheld
  exact ⟨hsecond, hsame⟩

/-- Rules of a compiler about files whose names have blanks and number signs in them. -/
def oddNames : String :=
  "a.o: b\\ c.h #d \\\n  \\ e.h #\\\nb.o: b.c\n"

def plainNames : String :=
  "b.o: b.c \\\n #.h\\\nb.o: b#.c /usr/b.h\n"

def compiled : Store :=
  (Store.empty.insert (.ofString "odd.d") (.ofString oddNames)).insert
    (.ofString "plain.d") (.ofString plainNames)

theorem convert_normal_form_compiled :
    let again : List Rule := [⟨"a.o", some "b", ["c.h", "e.h"]⟩, ⟨"b.o", some "b.c", []⟩]
    let odd := Path.ofString "odd.d"
    let first := (convert odd odd none).run Store.fileSystem compiled
    let second := (convert odd odd none).run Store.fileSystem first.2
    let third := (convert odd odd none).run Store.fileSystem second.2
    let plain := (convert (.ofString "plain.d") odd none).run Store.fileSystem compiled
    IsComment defaultComment ∧
    extract (fragment (extract oddNames) defaultComment) = again ∧
    first.1.ending = .done .changed ∧
    second.2.octets? odd = some (.ofString (fragment again defaultComment)) ∧
    third.1.ending = .done .unchanged ∧ third.2 = second.2 ∧
    plain.1.ending = .done .changed ∧
    ((convert odd odd none).run Store.fileSystem plain.2).1.ending = .done .unchanged := by
  have hcomment : IsComment defaultComment := by decide +kernel
  have hagain : (extract oddNames).map reread =
      [⟨"a.o", some "b", ["c.h", "e.h"]⟩, ⟨"b.o", some "b.c", []⟩] := by decide +kernel
  have hfirst : ((convert (.ofString "odd.d") (.ofString "odd.d") none).run Store.fileSystem
      compiled).1.ending = .done .changed := Ending.eq_done (by decide +kernel)
  have hplain : ((convert (.ofString "plain.d") (.ofString "odd.d") none).run Store.fileSystem
      compiled).1.ending = .done .changed := Ending.eq_done (by decide +kernel)
  obtain ⟨hread, -, -, hodd⟩ := convert_normal_form hcomment oddNames
  obtain ⟨-, -, -, hplainNames⟩ := convert_normal_form hcomment plainNames
  rw [hagain] at hread hodd
  obtain ⟨-, -, hsecond, -, hthird, hstore⟩ :=
    hodd compiled _ _ none (.ofString oddNames) .changed (by decide +kernel)
      (Octets.lenient_ofString _) rfl hfirst
  obtain ⟨-, -, -, hsame, -, -⟩ :=
    hplainNames compiled _ _ none (.ofString plainNames) .changed (by decide +kernel)
      (Octets.lenient_ofString _) rfl hplain
  exact ⟨hcomment, hread, hfirst, hsecond, hthird, hstore, hplain, (hsame (by decide +kernel)).1⟩

/-- A name that ends in a backslash and one that starts with a number sign do not survive: one comes
back changed, the other not at all. -/
theorem extract_fragment_extract_ne :
    IsComment defaultComment ∧
    extract "a.o: b\\ c.h" = [⟨"a.o", some "b\\", ["c.h"]⟩] ∧
    extract (fragment (extract "a.o: b\\ c.h") defaultComment) = [⟨"a.o", some "b", ["c.h"]⟩] ∧
    extract "a.o: #b c.h" = [⟨"a.o", some "#b", ["c.h"]⟩] ∧
    extract (fragment (extract "a.o: #b c.h") defaultComment) = [⟨"a.o", some "c.h", []⟩] ∧
    ¬∀ text comment, IsComment comment →
      extract (fragment (extract text) comment) = extract text := by
  have hcomment : IsComment defaultComment := by decide +kernel
  have hread : extract "a.o: b\\ c.h" = [⟨"a.o", some "b\\", ["c.h"]⟩] := by decide +kernel
  have hagain : extract (fragment (extract "a.o: b\\ c.h") defaultComment) =
      [⟨"a.o", some "b", ["c.h"]⟩] := by decide +kernel
  refine ⟨hcomment, hread, hagain, by decide +kernel, by decide +kernel, fun h => ?_⟩
  exact absurd ((hagain.symm.trans (h _ _ hcomment)).trans hread) (by decide)

end IncludeRules
