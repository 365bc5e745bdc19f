import IncludeRules.Proofs.Store.Faulty
import IncludeRules.Proofs.Store.Files
import IncludeRules.Update

/-! Making a file of a store hold some contents. -/

namespace IncludeRules

variable {path : Path} {contents : Octets} {text : String} {s t : Store} {o : Outcome}
  {events : List Event}

/-- What an event writes, and how the write was answered. -/
def Event.write? : Event → Option (Path × String × Except String Unit)
  | .asked (.write path text) answer => some (path, text, answer)
  | .asked (.readText _) _ | .asked (.read _) _ | .asked (.present _) _ | .asked (.isDirectory _) _
  | .asked (.entries _) _ | .told _ => none

/-- What a notice reports as done. -/
def Notice.report? : Notice → Option (Path × Outcome)
  | .updated output outcome => some (output, outcome)
  | .scanned .. | .printed _ | .saved _ | .unsaved _ => none

def Event.report? (e : Event) : Option (Path × Outcome) :=
  e.notice?.bind Notice.report?

/-- The reports of a course can be seen in its run. -/
theorem Course.reports_run {α : Type} (r : Course α) :
    r.run.notices.filterMap Notice.report? = r.events.filterMap Event.report? :=
  List.filterMap_filterMap

/-- The writes that have an outcome: none, or one that was made. -/
def Outcome.writes (path : Path) (text : String) :
    Outcome → List (Path × String × Except String Unit)
  | .unchanged => []
  | .new | .changed => [(path, text, .ok ())]

/-- The outcome of making a file hold some contents, by what it holds before. -/
def Outcome.ofContents (contents : Octets) : Option Octets → Outcome
  | none => .new
  | some old => if old = contents then .unchanged else .changed

/-- Whether the file was written. -/
def Outcome.isWrite : Outcome → Bool
  | .unchanged => false
  | .new | .changed => true

/-- Events that come to nothing: they report nothing, and whatever they write is refused. -/
structure Fruitless (events : List Event) : Prop where
  reports : events.filterMap Event.report? = []
  refused : ∀ w ∈ events.filterMap Event.write?, ∃ cause, w.2.2 = .error cause

/-- Events that neither report nor write. -/
structure Silent (events : List Event) : Prop where
  reports : events.filterMap Event.report? = []
  writes : events.filterMap Event.write? = []

theorem Fruitless.of_refused (path : Path) (text cause : String) :
    Fruitless [.asked (.write path text) (.error cause)] where
  reports := rfl
  refused w hw := by
    cases List.mem_singleton.mp hw
    exact ⟨cause, rfl⟩

theorem Silent.append_fruitless {rest : List Event} (h : Silent events) (hr : Fruitless rest) :
    Fruitless (events ++ rest) where
  reports := by rw [List.filterMap_append, h.reports, hr.reports, List.nil_append]
  refused := by
    rw [List.filterMap_append, h.writes, List.nil_append]
    exact hr.refused

theorem Silent.fruitless (h : Silent events) : Fruitless events := by
  have hnil : Fruitless [] := ⟨rfl, fun _ hw => nomatch hw⟩
  simpa using h.append_fruitless hnil

/-- A script that only looks: whatever it is answered, it neither writes nor reports. -/
abbrev Script.Looks {α : Type} (script : Script α) : Prop :=
  script.Within (·.isWrite = false) (·.report? = none)

theorem Script.Looks.silent {α : Type} {script : Script α} (h : script.Looks)
    (fs : FileSystem (StateM Store)) (s : Store) : Silent (script.course fs s).1.events := by
  have hevents : ∀ e ∈ (script.course fs s).1.events, e.Within _ _ := Script.within_events h s
  constructor
  · refine List.filterMap_eq_nil_iff.mpr fun e he => ?_
    cases e with
    | asked => rfl
    | told n => exact hevents _ he
  · refine List.filterMap_eq_nil_iff.mpr fun e he => ?_
    cases e with
    | told => rfl
    | asked c answer =>
      have hc := hevents _ he
      cases c with
      | write => cases hc
      | readText | read | present | isDirectory | entries => rfl

namespace Store

/-- What making a file hold some contents does to a store, by the outcome. -/
inductive Updates (path : Path) (contents : Octets) (s : Store) : Outcome → Store → Prop where
  | new (h : s.present path = false) : Updates path contents s .new (s.write path contents)
  | changed {old : Octets} (h : s.octets? path = some old) (hne : old ≠ contents) :
    Updates path contents s .changed (s.write path contents)
  | unchanged (h : s.octets? path = some contents) : Updates path contents s .unchanged s

namespace Updates

theorem octets?_self (h : Updates path contents s o t) : t.octets? path = some contents := by
  cases h with
  | new | changed => exact octets?_write_self
  | unchanged h => exact h

theorem lookup_other {l : Location} (h : Updates path contents s o t)
    (hne : l ≠ path.location) : t.files.lookup l = s.files.lookup l := by
  cases h with
  | new | changed => exact lookup_write_other hne
  | unchanged => rfl

/-- The outcome tells what was there before. -/
theorem outcome_eq (h : Updates path contents s o t) :
    o = .ofContents contents (s.octets? path) := by
  cases h with
  | new habsent =>
    have hnone : s.octets? path = none := by
      refine Option.eq_none_iff_forall_ne_some.mpr fun old hold => ?_
      cases (present_of_octets? hold).symm.trans habsent
    rw [hnone]
    rfl
  | changed hold hne => rw [hold, Outcome.ofContents, if_neg hne]
  | unchanged hold => rw [hold, Outcome.ofContents, if_pos rfl]

theorem writes_eq (h : Updates path contents s o t) :
    t.writes = s.writes + if o.isWrite then 1 else 0 := by
  cases h with
  | new | changed | unchanged => rfl

/-- Nothing happens to a file that holds the contents already. -/
theorem of_held (h : Updates path contents s o t) (hheld : s.octets? path = some contents) :
    o = .unchanged ∧ t = s := by
  cases h with
  | new habsent => cases (present_of_octets? hheld).symm.trans habsent
  | changed hold hne => exact absurd (Option.some.inj (hold.symm.trans hheld)) hne
  | unchanged => exact ⟨rfl, rfl⟩

end Updates

theorem answer_read_of_octets? (h : s.octets? path = some contents) :
    fileSystem.answer (.read path) s = (.ok (.ok contents), s) := by
  have hcontents : s.read path = .ok contents := by rw [Store.read, h]
  rw [← hcontents]
  rfl

/-- A file that holds a text already is only read. -/
theorem update_unchanged (h : s.octets? path = some (.ofString text)) :
    (update path text).course Store.fileSystem s =
      (⟨[.asked (.present path) true, .asked (.read path) (.ok (.ofString text))],
        .done .unchanged⟩, s) := by
  have hpresent : fileSystem.answer (.present path) s = (.ok true, s) := by
    rw [← present_of_octets? h]
    rfl
  simp only [update, Script.present, Script.read, Script.call_bind, Script.done_bind,
    Script.course_call, hpresent, answer_read_of_octets? h, Script.orFail_ok, if_true]
  rfl

end Store

namespace Store.Faulty

variable (f : Faulty)

/-- A script that only looks is done or fails, and leaves the store as it is. -/
theorem looks_cases {α : Type} {script : Script α} (h : script.Looks) (s : Store) : ∃ events,
    Silent events ∧ ((∃ a, script.course f.fileSystem s = (⟨events, .done a⟩, s)) ∨
      ∃ e, script.course f.fileSystem s = (⟨events, .failed e⟩, s)) := by
  have hsilent := h.silent f.fileSystem s
  have hstore := f.store_course h s
  obtain ⟨events, t, hcases⟩ := f.course_cases script s
  rcases hcases with ⟨a, hcourse⟩ | ⟨e, hcourse⟩
  · rw [hcourse] at hsilent hstore
    cases hstore
    exact ⟨events, hsilent, Or.inl ⟨a, hcourse⟩⟩
  · rw [hcourse] at hsilent hstore
    cases hstore
    exact ⟨events, hsilent, Or.inr ⟨e, hcourse⟩⟩

/-- Why an update fails: what exists is not read, or contents that are new are not written. -/
inductive Refuses (path : Path) (text : String) (s : Store) : Failure → Prop
  | unread {cause : String} (hpresent : s.present path = true)
    (hanswer : f.fileSystem.answer (.read path) s = (.ok (.error cause), s)) :
    Refuses path text s (.unreadableOutput path.display cause)
  | unwritten {cause : String} (hnew : s.octets? path ≠ some (.ofString text))
    (hanswer : f.fileSystem.answer (.write path text) s = (.ok (.error cause), s)) :
    Refuses path text s (.unwritable path.display cause)

/-- The end of an update is one write, which is made or refused. -/
theorem replace_cases (path : Path) (text : String) (g : String → Failure) (o : Outcome)
    (s : Store) :
    (do
      let written ← Script.write path text
      Script.orFail g written
      return o : Script Outcome).course f.fileSystem s =
        (⟨[.asked (.write path text) (.ok ())], .done o⟩, s.write path (.ofString text)) ∨
      ∃ cause, f.fileSystem.answer (.write path text) s = (.ok (.error cause), s) ∧ (do
        let written ← Script.write path text
        Script.orFail g written
        return o : Script Outcome).course f.fileSystem s =
          (⟨[.asked (.write path text) (.error cause)], .failed (g cause)⟩, s) := by
  simp only [Script.write, Script.call_bind, Script.done_bind, Script.course_call]
  rcases f.answer_write path text s with h | ⟨cause, h⟩
  · rw [h]
    exact Or.inl rfl
  · rw [h]
    exact Or.inr ⟨cause, rfl, rfl⟩

/-- An update that succeeds writes once, unless the file holds the text already. One that fails has
written nothing. -/
theorem update_cases (path : Path) (text : String) (s : Store) : ∃ events,
    (∃ o t, (update path text).course f.fileSystem s = (⟨events, .done o⟩, t) ∧
      Updates path (.ofString text) s o t ∧ events.filterMap Event.report? = [] ∧
        events.filterMap Event.write? = o.writes path text) ∨
    ∃ e, (update path text).course f.fileSystem s = (⟨events, .failed e⟩, s) ∧
      Fruitless events ∧ f.Refuses path text s e := by
  unfold update
  simp only [Script.present, Script.call_bind, Script.done_bind, Script.course_call,
    f.answer_present]
  cases hp : s.present path with
  | false =>
    rw [if_neg Bool.false_ne_true]
    rcases f.replace_cases path text (.unwritable path.display) .new s with h | ⟨cause, hw, h⟩
    · rw [h]
      exact ⟨_, Or.inl ⟨_, _, rfl, .new hp, rfl, rfl⟩⟩
    · rw [h]
      have hnew : s.octets? path ≠ some (.ofString text) := fun hold =>
        Bool.false_ne_true (hp.symm.trans (present_of_octets? hold))
      exact ⟨_, Or.inr ⟨_, rfl, Silent.append_fruitless ⟨rfl, rfl⟩ (.of_refused path text cause),
        .unwritten hnew hw⟩⟩
  | true =>
    simp only [if_true, Script.read, Script.call_bind, Script.done_bind, Script.course_call]
    obtain ⟨r, hr, hold⟩ := f.answer_read path s
    rw [hr]
    cases r with
    | error cause => exact ⟨_, Or.inr ⟨_, rfl, Silent.fruitless ⟨rfl, rfl⟩, .unread hp hr⟩⟩
    | ok old =>
      simp only [Script.orFail_ok, Script.done_bind]
      by_cases heq : old = .ofString text
      · rw [if_pos heq]
        exact ⟨_, Or.inl ⟨_, _, rfl, .unchanged (heq ▸ hold old rfl), rfl, rfl⟩⟩
      · rw [if_neg heq]
        rcases f.replace_cases path text (.unwritable path.display) .changed s with
          h | ⟨cause, hw, h⟩
        · rw [h]
          exact ⟨_, Or.inl ⟨_, _, rfl, .changed (hold old rfl) heq, rfl, rfl⟩⟩
        · rw [h]
          have hlooked : Silent [.asked (.present path) true, .asked (.read path) (.ok old)] :=
            ⟨rfl, rfl⟩
          have hnew : s.octets? path ≠ some (.ofString text) := fun htext =>
            heq (Option.some.inj ((hold old rfl).symm.trans htext))
          exact ⟨_, Or.inr ⟨_, rfl, hlooked.append_fruitless (.of_refused path text cause),
            .unwritten hnew hw⟩⟩

end Store.Faulty

/-- A file is made to hold a text, unless what exists in its place is no file. -/
theorem Store.update_done_or_unreadable (path : Path) (text : String) (s : Store) : ∃ events,
    (∃ o t, (update path text).course Store.fileSystem s = (⟨events, .done o⟩, t) ∧
      Updates path (.ofString text) s o t) ∨
    s.present path = true ∧ s.octets? path = none ∧
      (update path text).course Store.fileSystem s =
        (⟨events, .failed (.unreadableOutput path.display (path.display ++ ": no such file"))⟩,
          s) := by
  obtain ⟨events, ⟨o, t, hcourse, hupdates, -, -⟩ | ⟨e, hcourse, -, hrefuses⟩⟩ :=
    Faulty.reliable.update_cases path text s
  · exact ⟨events, Or.inl ⟨o, t, hcourse, hupdates⟩⟩
  · refine ⟨events, Or.inr ?_⟩
    cases hrefuses with
    | unread hpresent hanswer =>
      have hread : s.read path = .error _ := Except.ok.inj (congrArg Prod.fst hanswer)
      obtain ⟨hnone, rfl⟩ := octets?_of_read_error hread
      exact ⟨hpresent, hnone, hcourse⟩
    | unwritten _ hanswer => cases hanswer

end IncludeRules
