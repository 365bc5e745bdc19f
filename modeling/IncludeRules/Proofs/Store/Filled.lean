import IncludeRules.Proofs.Octets.Strict
import IncludeRules.Proofs.Path.Normal
import IncludeRules.Proofs.Store.Entries

/-! Stores that were filled by their own operations, and what their entries name. -/

namespace IncludeRules

open IncludeRules.Path

namespace Component

variable {c : Component} {entry : String}

/-- The name of an entry is read as the component that it was made from. -/
theorem below_entryName (hc : c.Proper) (hroot : c ≠ .root) (h : Store.entryName? c = some entry) :
    below (.ofString entry) = [c] ∧ (Path.ofString entry).isRooted = false := by
  cases c with
  | root => exact absurd rfl hroot
  | here => exact hc.elim
  | parent =>
    cases h
    exact ⟨by decide +kernel, by decide +kernel⟩
  | name n =>
    rw [Store.entryName?] at h
    cases hstrict : Octets.strict n with
    | error e =>
      rw [hstrict] at h
      cases h
    | ok text =>
      rw [hstrict] at h
      cases h
      cases Octets.strict_eq_ok_iff.mp hstrict
      exact ⟨below_name hc, isRooted_name hc⟩

end Component

namespace Store

variable {s t : Store} {path dir : Path} {contents : Octets} {l : Location} {entry : String}

/-- A store that holds what was added to it or written, and nothing else. -/
inductive Filled : Store → Prop
  | empty : Filled empty
  | insert {s : Store} (h : Filled s) (path : Path) (contents : Octets) :
    Filled (s.insert path contents)
  | write {s : Store} (h : Filled s) (path : Path) (contents : Octets) :
    Filled (s.write path contents)

theorem mem_locations_insert :
    l ∈ (s.insert path contents).locations ↔ l = path.location ∨ l ∈ s.locations := by
  rw [locations_insert]
  by_cases h : path.location ∈ s.locations
  · rw [if_pos h, or_iff_right_of_imp]
    rintro rfl
    exact h
  · rw [if_neg h, List.mem_append, List.mem_singleton, or_comm]

/-- The store to which files were added one after the other. -/
def insertAll (s : Store) (files : List (Path × Octets)) : Store :=
  files.foldl (fun s file => s.insert file.1 file.2) s

theorem mem_locations_insertAll {files : List (Path × Octets)} :
    l ∈ (s.insertAll files).locations ↔
      (∃ file ∈ files, l = file.1.location) ∨ l ∈ s.locations := by
  induction files generalizing s with
  | nil => simp [insertAll]
  | cons file files ih =>
    have hcons : s.insertAll (file :: files) = (s.insert file.1 file.2).insertAll files := rfl
    rw [hcons, ih, mem_locations_insert, List.exists_mem_cons_iff, or_left_comm, or_assoc]

/-- Which files there are does not depend on the order in which they were added. -/
theorem mem_locations_insertAll_perm {files others : List (Path × Octets)}
    (h : others.Perm files) :
    l ∈ (s.insertAll others).locations ↔ l ∈ (s.insertAll files).locations := by
  rw [mem_locations_insertAll, mem_locations_insertAll]
  simp only [h.mem_iff]

/-- No location is kept twice. -/
theorem Filled.nodup_locations (h : s.Filled) : s.locations.Nodup := by
  induction h with
  | empty => exact .nil
  | @insert s _ path contents ih | @write s _ path contents ih =>
    change (s.insert path contents).locations.Nodup
    rw [locations_insert]
    by_cases hold : path.location ∈ s.locations
    · rw [if_pos hold]
      exact ih
    · rw [if_neg hold, ← List.concat_eq_append]
      exact ih.concat hold

/-- Files are kept at normal locations only. -/
theorem Filled.normal (h : s.Filled) : ∀ l ∈ s.locations, l.Normal := by
  induction h with
  | empty => exact fun _ hl => nomatch hl
  | insert _ path contents ih | write _ path contents ih =>
    intro l hl
    rcases mem_locations_insert.mp hl with rfl | hl
    · exact normal_location path
    · exact ih l hl

/-- Whether something exists depends on where a path leads, not on its spelling. -/
theorem present_of_location {q : Path} (h : path.location = q.location) :
    s.present path = s.present q := by
  rw [present, present, h]

theorem octets?_of_location {q : Path} (h : path.location = q.location) :
    s.octets? path = s.octets? q := by
  rw [octets?, octets?, h]

theorem present_above (hl : l ∈ s.locations) (h : path.location <+: l) :
    s.present path = true := by
  obtain ⟨rest, rfl⟩ := h
  exact present_iff.mpr (Or.inr ⟨rest, hl⟩)

/-- An entry of a directory exists as seen from the directory. The root is an entry where the
directory is the place from which paths are read. -/
theorem Filled.entries_cases (hs : s.Filled) (h : entry ∈ s.entries dir) :
    s.present (dir.join (.ofString entry)) = true ∧
      ((Path.ofString entry).isRooted = false ∨ entry = "/" ∧ dir.location = []) := by
  obtain ⟨rest, hl, hentry⟩ := mem_entries_iff.mp h
  obtain ⟨c, hc, hname⟩ := Option.bind_eq_some_iff.mp hentry
  obtain ⟨later, rfl⟩ := List.head?_eq_some_iff.mp hc
  have hnormal := hs.normal _ hl
  by_cases hroot : c = .root
  · subst hroot
    cases hname
    have hdir : dir.location = [] := hnormal.eq_nil_of_root
    refine ⟨present_above hl ?_, Or.inr ⟨rfl, hdir⟩⟩
    rw [hdir]
    exact ⟨later, rfl⟩
  · obtain ⟨hbelow, hrooted⟩ :=
      Component.below_entryName (hnormal.proper c (by simp)) hroot hname
    refine ⟨present_above hl ?_, Or.inl hrooted⟩
    rw [location_join hrooted, Path.ofString, hbelow, walk_next hnormal hroot]
    exact ⟨later, by simp⟩

theorem answer_isDirectory_eq_iff {b : Bool} :
    fileSystem.answer (.isDirectory path) s = (.ok b, t) ↔ s.isDirectory path = b ∧ s = t := by
  change (Except.ok (s.isDirectory path), s) = _ ↔ _
  simp

theorem answer_entries_eq_iff {entries : List String} :
    fileSystem.answer (.entries path) s = (.ok (.ok entries), t) ↔
      s.isDirectory path = true ∧ s.entries path = entries ∧ s = t := by
  change (if s.isDirectory path then (Except.ok (Except.ok (s.entries path)), s)
    else (.ok (.error (path.display ++ ": not a directory")), s)) = _ ↔ _
  by_cases h : s.isDirectory path <;> simp [h]

end Store

end IncludeRules
