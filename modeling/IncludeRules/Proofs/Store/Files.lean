import IncludeRules.Store

/-! What writing one file of a store does to what is read from it. -/

namespace IncludeRules.Store

variable {s : Store} {path : Path} {contents : Octets}

theorem lookup_put_self (l : Location) (contents : Octets) (files : List (Location × Octets)) :
    (put l contents files).lookup l = some contents := by
  induction files with
  | nil => simp [put]
  | cons file files ih =>
    obtain ⟨k, old⟩ := file
    by_cases h : k = l
    · simp [put, h]
    · simp [put, h, List.lookup_cons, ih, beq_eq_false_iff_ne.mpr (Ne.symm h)]

theorem lookup_put_other {l k : Location} (h : k ≠ l) (contents : Octets)
    (files : List (Location × Octets)) : (put l contents files).lookup k = files.lookup k := by
  induction files with
  | nil => simp [put, List.lookup_cons, beq_eq_false_iff_ne.mpr h]
  | cons file files ih =>
    obtain ⟨j, old⟩ := file
    by_cases hj : j = l
    · subst hj
      simp [put, List.lookup_cons, beq_eq_false_iff_ne.mpr h]
    · simp [put, hj, List.lookup_cons, ih]

/-- What is inserted is found under every path to the same location, and nowhere else. -/
theorem octets?_insert (s : Store) (path other : Path) (contents : Octets) :
    (s.insert path contents).octets? other =
      if path.location = other.location then some contents else s.octets? other := by
  by_cases h : path.location = other.location
  · rw [if_pos h, octets?, ← h]
    exact lookup_put_self _ _ _
  · rw [if_neg h]
    exact lookup_put_other (Ne.symm h) _ _

@[simp] theorem octets?_write_self : (s.write path contents).octets? path = some contents :=
  lookup_put_self _ _ _

/-- A write leaves every other location alone. -/
theorem lookup_write_other {l : Location} (h : l ≠ path.location) :
    (s.write path contents).files.lookup l = s.files.lookup l :=
  lookup_put_other h _ _

/-- Contents are replaced in place, and a file at a new location comes last. -/
theorem map_fst_put (l : Location) (contents : Octets) (files : List (Location × Octets)) :
    (put l contents files).map (·.1) =
      if l ∈ files.map (·.1) then files.map (·.1) else files.map (·.1) ++ [l] := by
  induction files with
  | nil => simp [put]
  | cons file files ih =>
    obtain ⟨k, old⟩ := file
    by_cases h : k = l
    · simp [put, h]
    · have hmem : l ∈ k :: files.map (·.1) ↔ l ∈ files.map (·.1) := by simp [Ne.symm h]
      simp only [put, if_neg h, List.map_cons, ih, hmem]
      split <;> rfl

theorem locations_insert (s : Store) (path : Path) (contents : Octets) :
    (s.insert path contents).locations =
      if path.location ∈ s.locations then s.locations else s.locations ++ [path.location] :=
  map_fst_put path.location contents s.files

/-- A file exists. -/
theorem present_of_octets? (h : s.octets? path = some contents) : s.present path = true := by
  have hmem : path.location ∈ s.locations := by
    obtain ⟨x, y, hxy, _⟩ := List.lookup_eq_some_iff.mp h
    simp [locations, hxy]
  simp only [present, Bool.or_eq_true, List.any_eq_true]
  exact Or.inr ⟨_, hmem, by simp⟩

end IncludeRules.Store
