import IncludeRules.Proofs.Store.Updates

/-! What an update of a file promises, whatever calls are refused. -/

namespace IncludeRules.Store

variable {path : Path} {text : String} {contents : Octets} {s t : Store} {o : Outcome}

/-- What holds of the stores before and after an update that is done. -/
structure Contract (path : Path) (contents : Octets) (s : Store) (o : Outcome) (t : Store) :
    Prop where
  holds : t.read path = .ok contents
  new_iff : o = .new ↔ s.present path = false
  unchanged_iff : o = .unchanged ↔ s.read path = .ok contents
  changed_iff : o = .changed ↔ ∃ old, s.read path = .ok old ∧ old ≠ contents
  writes : t.writes = s.writes + if o = .unchanged then 0 else 1
  others : ∀ other : Path, other.location ≠ path.location → t.octets? other = s.octets? other

theorem read_eq_ok_iff : s.read path = .ok contents ↔ s.octets? path = some contents := by
  refine ⟨octets?_of_read, fun h => ?_⟩
  rw [Store.read, h]

/-- What does not exist cannot be read. -/
theorem read_ne_ok_of_absent (h : s.present path = false) : s.read path ≠ .ok contents := by
  intro hread
  have hpresent : s.present path = true := present_of_octets? (octets?_of_read hread)
  rw [h] at hpresent
  cases hpresent

theorem Updates.contract (h : Updates path contents s o t) : Contract path contents s o t where
  holds := read_eq_ok_iff.mpr h.octets?_self
  new_iff := by
    cases h with
    | new habsent => exact iff_of_true rfl habsent
    | changed hold | unchanged hold =>
      have hpresent := present_of_octets? hold
      exact iff_of_false (fun h => nomatch h) (by rw [hpresent]; exact fun h => nomatch h)
  unchanged_iff := by
    cases h with
    | new habsent => exact iff_of_false (fun h => nomatch h) (read_ne_ok_of_absent habsent)
    | changed hold hne =>
      refine iff_of_false (fun h => nomatch h) fun hread => hne ?_
      exact Option.some.inj (hold.symm.trans (octets?_of_read hread))
    | unchanged hold => exact iff_of_true rfl (read_eq_ok_iff.mpr hold)
  changed_iff := by
    cases h with
    | new habsent =>
      refine iff_of_false (fun h => nomatch h) ?_
      rintro ⟨old, hread, -⟩
      exact read_ne_ok_of_absent habsent hread
    | changed hold hne => exact iff_of_true rfl ⟨_, read_eq_ok_iff.mpr hold, hne⟩
    | unchanged hold =>
      refine iff_of_false (fun h => nomatch h) ?_
      rintro ⟨old, hread, hne⟩
      exact hne (Option.some.inj ((octets?_of_read hread).symm.trans hold))
  writes := by
    cases h with
    | new | changed | unchanged => rfl
  others other hother := h.lookup_other hother

namespace Faulty

variable (f : Faulty)

/-- A file that holds a text already is not written again, if it can be read. -/
theorem update_held (hheld : s.octets? path = some (.ofString text))
    (hread : f.fileSystem.answer (.read path) s = Store.fileSystem.answer (.read path) s) :
    ((update path text).run f.fileSystem s).1.ending = .done .unchanged ∧
      ((update path text).run f.fileSystem s).2 = s := by
  obtain ⟨events, ⟨o, t, hcourse, hupdates, -, -⟩ | ⟨e, -, -, hrefuses⟩⟩ :=
    f.update_cases path text s
  · obtain ⟨rfl, rfl⟩ := hupdates.of_held hheld
    rw [Script.run_of_course hcourse]
    exact ⟨rfl, rfl⟩
  · cases hrefuses with
    | unread _ hanswer =>
      rw [answer_read_of_octets? hheld, hanswer] at hread
      cases hread
    | unwritten hnew _ => exact absurd hheld hnew

/-- An update is done or it fails, whatever calls are refused. One that is done makes the file hold
the text and nothing else happens; its outcome tells what was there before, and to do it again does
nothing, unless the file cannot be read then. One that fails does nothing at all; it fails because
what exists is not read, which is always so for a directory that is no file, or because the file is
not written. -/
theorem update_contract (path : Path) (text : String) (s : Store) :
    ∃ r t, (update path text).run f.fileSystem s = (r, t) ∧
      ((∃ o, r.ending = .done o ∧ Contract path (.ofString text) s o t ∧
          (f.fileSystem.answer (.read path) t = Store.fileSystem.answer (.read path) t →
            f.fileSystem.answer (.read path) t = (.ok (.ok (.ofString text)), t) ∧
            ((update path text).run f.fileSystem t).1.ending = .done .unchanged ∧
            ((update path text).run f.fileSystem t).2 = t)) ∨
        ∃ e, r.ending = .failed e ∧ t = s ∧ f.Refuses path text s e) ∧
      (s.present path = true → s.octets? path = none → ∃ e, r.ending = .failed e) := by
  obtain ⟨events, ⟨o, t, hcourse, hupdates, -, -⟩ | ⟨e, hcourse, -, hrefuses⟩⟩ :=
    f.update_cases path text s
  · refine ⟨_, t, Script.run_of_course hcourse, Or.inl ⟨o, rfl, hupdates.contract, ?_⟩, ?_⟩
    · intro hread
      have hheld := hupdates.octets?_self
      exact ⟨hread.trans (answer_read_of_octets? hheld), f.update_held hheld hread⟩
    · intro hpresent hnone
      cases hupdates with
      | new habsent => cases hpresent.symm.trans habsent
      | changed hold | unchanged hold => cases hnone.symm.trans hold
  · exact ⟨_, s, Script.run_of_course hcourse, Or.inr ⟨e, rfl, rfl, hrefuses⟩,
      fun _ _ => ⟨e, rfl⟩⟩

end Faulty

end IncludeRules.Store
