import IncludeRules.Proofs.Octets.Order
import IncludeRules.Proofs.Store.Contract
import IncludeRules.Proofs.Store.Filled

/-! The files of a store make a tree of directories, whichever way it is looked at. -/

namespace IncludeRules.Store

open IncludeRules.Path

variable {s : Store} {p : Path} {c : Component} {e : String} {names : List String}

/-- A text that is one component of a path as it stands, and a name. -/
def IsName (e : String) : Prop :=
  (Path.ofString e).components = [.name (.ofString e)]

/-- What a directory lists. -/
def Lists (s : Store) (p : Path) (names : List String) : Prop :=
  fileSystem.answer (.entries p) s = (.ok (.ok names), s)

theorem lists_iff : s.Lists p names ↔ s.isDirectory p = true ∧ s.entries p = names := by
  rw [Lists, answer_entries_eq_iff]
  simp

theorem readable_iff : (∃ contents, s.read p = .ok contents) ↔ p.location ∈ s.locations := by
  rw [mem_locations_iff, Option.isSome_iff_exists]
  exact exists_congr fun _ => read_eq_ok_iff

instance (e : String) : Decidable (IsName e) :=
  inferInstanceAs (Decidable (_ = _))

theorem IsName.below (h : IsName e) :
    (Path.ofString e).isRooted = false ∧ Path.below (.ofString e) = [.name (.ofString e)] := by
  rw [IsName, components, start] at h
  split at h
  · cases h
  · next hrooted =>
    split at h
    · cases h
    · exact ⟨Bool.eq_false_of_not_eq_true hrooted, h⟩

/-- A name leads from a directory to what is right below it. -/
theorem location_join_name (h : IsName e) (p : Path) :
    (p.join (.ofString e)).location = p.location ++ [.name (.ofString e)] := by
  obtain ⟨hrooted, hbelow⟩ := h.below
  have hwalk : (p.join (.ofString e)).location = walk p.location (Path.below (.ofString e)) :=
    location_join hrooted
  rw [hwalk, hbelow, walk_name]

/-- The root and the steps to a parent are listed too, but under texts that are no names. -/
theorem entryName?_eq_some_iff (h : IsName e) :
    entryName? c = some e ↔ c = .name (.ofString e) := by
  have hother {text : String} (htext : ¬IsName text) : some text ≠ some e := by
    intro heq
    exact htext (Option.some.inj heq ▸ h)
  cases c with
  | root | here | parent => exact iff_of_false (hother (by decide +kernel)) (by simp)
  | name n =>
    rw [entryName?, Component.name.injEq, ← Octets.strict_eq_ok_iff]
    cases Octets.strict n <;> simp [Except.toOption]

/-- The entries of a directory are the names below which there is a file. -/
theorem mem_entries_iff_below (h : IsName e) :
    e ∈ s.entries p ↔ ∃ rest, p.location ++ .name (.ofString e) :: rest ∈ s.locations := by
  rw [mem_entries_iff]
  constructor
  · rintro ⟨below, hl, hname⟩
    obtain ⟨c, hc, hname⟩ := Option.bind_eq_some_iff.mp hname
    obtain ⟨rest, rfl⟩ := List.head?_eq_some_iff.mp hc
    rw [(entryName?_eq_some_iff h).mp hname] at hl
    exact ⟨rest, hl⟩
  · rintro ⟨rest, hl⟩
    exact ⟨_, hl, (entryName?_eq_some_iff h).mpr rfl⟩

theorem present_join_iff (h : IsName e) :
    s.present (p.join (.ofString e)) = true ↔
      ∃ rest, p.location ++ .name (.ofString e) :: rest ∈ s.locations := by
  rw [present_iff, location_join_name h]
  simp only [List.append_eq_nil_iff, List.cons_ne_nil, and_false, false_or, List.append_assoc,
    List.singleton_append]

/-- What exists is a file or a directory, or both. -/
theorem present_iff_readable_or_directory :
    s.present p = true ↔ (∃ contents, s.read p = .ok contents) ∨ s.isDirectory p = true := by
  rw [present_iff, readable_iff, isDirectory_iff]
  constructor
  · rintro (hempty | ⟨rest, hl⟩)
    · exact Or.inr (Or.inl hempty)
    · cases rest with
      | nil => exact Or.inl (by rwa [List.append_nil] at hl)
      | cons c rest => exact Or.inr (Or.inr ⟨c, rest, hl⟩)
  · rintro (hl | hempty | ⟨c, rest, hl⟩)
    · exact Or.inr ⟨[], by rwa [List.append_nil]⟩
    · exact Or.inl hempty
    · exact Or.inr ⟨_, hl⟩

theorem isDirectory_of_present_join (h : IsName e)
    (hpresent : s.present (p.join (.ofString e)) = true) : s.isDirectory p = true := by
  obtain ⟨rest, hl⟩ := (present_join_iff h).mp hpresent
  exact isDirectory_iff.mpr (Or.inr ⟨_, rest, hl⟩)

theorem lists_name_iff (h : IsName e) :
    (∃ names, s.Lists p names ∧ e ∈ names) ↔ s.present (p.join (.ofString e)) = true := by
  constructor
  · rintro ⟨names, hlists, hmem⟩
    obtain ⟨-, rfl⟩ := lists_iff.mp hlists
    exact (present_join_iff h).mpr ((mem_entries_iff_below h).mp hmem)
  · intro hpresent
    have hmem : e ∈ s.entries p := (mem_entries_iff_below h).mpr ((present_join_iff h).mp hpresent)
    exact ⟨_, lists_iff.mpr ⟨isDirectory_of_present_join h hpresent, rfl⟩, hmem⟩

/-- The four ways to look at a store tell of one tree. What exists is a file or a directory, or both;
a directory is what can be listed; a list ascends, octet by octet; and it holds the names of what
exists right below the directory. -/
theorem tree_consistent (s : Store) (p : Path) :
    (s.present p = true ↔ (∃ contents, s.read p = .ok contents) ∨ s.isDirectory p = true) ∧
      ((∃ names, s.Lists p names) ↔ s.isDirectory p = true) ∧
      (∀ names, s.Lists p names → (names.map Octets.ofString).Pairwise (· < ·)) ∧
      ∀ e, IsName e →
        ((∃ names, s.Lists p names ∧ e ∈ names) ↔ s.present (p.join (.ofString e)) = true) ∧
          (s.present (p.join (.ofString e)) = true → s.isDirectory p = true) := by
  refine ⟨present_iff_readable_or_directory, ?_, ?_,
    fun e he => ⟨lists_name_iff he, isDirectory_of_present_join he⟩⟩
  · constructor
    · rintro ⟨names, hlists⟩
      exact (lists_iff.mp hlists).1
    · intro h
      exact ⟨_, lists_iff.mpr ⟨h, rfl⟩⟩
  · intro names hlists
    obtain ⟨-, rfl⟩ := lists_iff.mp hlists
    refine List.pairwise_map.mpr ((s.entries_pairwise p).imp ?_)
    exact Octets.ofString_lt_ofString_iff.mpr

end IncludeRules.Store
