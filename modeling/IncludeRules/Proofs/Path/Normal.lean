import IncludeRules.Proofs.Path.Join
import IncludeRules.Proofs.Text.Blank

/-! The shape of locations: a root at most, then parent steps, then names. -/

namespace IncludeRules

variable {l rest : Location} {c : Component} {cs : List Component} {n b : Octets}

/-- A name is a piece between slashes that stands for itself. -/
def Component.Proper : Component → Prop
  | .root | .parent => True
  | .here => False
  | .name n => Path.slash ∉ n ∧ Path.component? n = some (.name n)

/-- Which components may stand before which, at any distance: none before a root, and no name before
a parent step. -/
def Component.Precedes (a b : Component) : Prop :=
  b ≠ .root ∧ (b = .parent → ∀ n, a ≠ .name n)

/-- Nothing in a location can be taken back or left out. -/
structure Location.Normal (l : Location) : Prop where
  proper : ∀ c ∈ l, c.Proper
  ordered : l.Pairwise Component.Precedes

theorem Component.precedes_name (a : Component) (n : Octets) : a.Precedes (.name n) :=
  ⟨(fun h => nomatch h), fun h => nomatch h⟩

theorem Component.precedes_parent {a : Component} (h : ∀ n, a ≠ .name n) : a.Precedes .parent :=
  ⟨(fun h => nomatch h), fun _ => h⟩

/-- A name without slashes is its own and only piece. -/
theorem Component.below_name (h : Proper (.name n)) : Path.below n = [.name n] := by
  rw [Path.below, Path.splitOnP_slash_eq_singleton h.1, List.filterMap_cons, h.2,
    List.filterMap_nil]

theorem Component.isRooted_name (h : Proper (.name n)) : (Path.mk n).isRooted = false := by
  refine beq_eq_false_iff_ne.mpr fun hhead => h.1 ?_
  exact List.mem_of_mem_head? hhead

namespace Location.Normal

theorem nil : Normal [] :=
  ⟨fun _ hc => (nomatch hc), .nil⟩

theorem concat (h : Normal l) (hc : c.Proper) (hl : ∀ a ∈ l, a.Precedes c) :
    Normal (l ++ [c]) where
  proper := by
    intro d hd
    rcases List.mem_append.mp hd with hd | hd
    · exact h.proper d hd
    · cases List.mem_singleton.mp hd
      exact hc
  ordered := List.pairwise_append.mpr
    ⟨h.ordered, List.pairwise_singleton _ c, fun a ha d hd => List.mem_singleton.mp hd ▸ hl a ha⟩

theorem front (h : Normal (l ++ rest)) : Normal l :=
  ⟨fun c hc => h.proper c (List.mem_append_left _ hc), (List.pairwise_append.mp h.ordered).1⟩

theorem precedes (h : Normal (l ++ c :: rest)) : ∀ a ∈ l, a.Precedes c :=
  fun a ha => (List.pairwise_append.mp h.ordered).2.2 a ha c List.mem_cons_self

/-- Nothing stands before a root. -/
theorem eq_nil_of_root (h : Normal (l ++ .root :: rest)) : l = [] :=
  List.eq_nil_iff_forall_not_mem.mpr fun a ha => (h.precedes a ha).1 rfl

/-- A location ends in a name, or a parent step could follow. -/
theorem ends_or_precedes (h : Normal l) :
    (∃ front n, l = front ++ [.name n]) ∨ ∀ a ∈ l, a.Precedes .parent := by
  rcases List.eq_nil_or_concat' l with rfl | ⟨front, last, rfl⟩
  · exact Or.inr fun _ ha => nomatch ha
  have hlast := h.proper last (by simp)
  have hnames (hnone : ∀ a ∈ front, ∀ n, a ≠ .name n) (hl : ∀ n, last ≠ .name n) :
      ∀ a ∈ front ++ [last], a.Precedes .parent := by
    intro a ha
    apply a.precedes_parent
    rcases List.mem_append.mp ha with ha | ha
    · exact hnone a ha
    · exact List.mem_singleton.mp ha ▸ hl
  cases last with
  | name n => exact Or.inl ⟨front, n, rfl⟩
  | here => exact hlast.elim
  | root => exact Or.inr (hnames (fun a ha => absurd rfl (h.precedes a ha).1) fun n h => nomatch h)
  | parent => exact Or.inr (hnames (fun a ha => (h.precedes a ha).2 rfl) fun n h => nomatch h)

end Location.Normal

namespace Path

open Location

theorem proper_of_mem_below (h : c ∈ below b) : c.Proper ∧ c ≠ .root := by
  obtain ⟨piece, hpiece, hc⟩ := List.mem_filterMap.mp h
  have hslash : slash ∉ piece := fun hmem => by
    simpa using Text.mem_splitOnP_false hpiece slash hmem
  unfold component? at hc
  split at hc
  · cases hc
  · next hdot =>
    split at hc
    · cases hc
      exact ⟨trivial, fun h => nomatch h⟩
    · next hparent =>
      cases hc
      exact ⟨⟨hslash, by rw [component?, if_neg hdot, if_neg hparent]⟩, fun h => nomatch h⟩

theorem walk_name (l : Location) (n : Octets) : walk l [.name n] = l ++ [.name n] := by
  simp [walk, push]

/-- A parent step takes back a name. -/
theorem walk_parent_name (l : Location) (n : Octets) : walk (l ++ [.name n]) [.parent] = l := by
  simp [walk, push]

/-- A parent step piles up where it could stand in a location. -/
theorem walk_parent (h : ∀ a ∈ l, a.Precedes .parent) : walk l [.parent] = l ++ [.parent] := by
  rcases List.eq_nil_or_concat' l with rfl | ⟨front, last, rfl⟩
  · rfl
  · have hlast := (h last (by simp)).2 rfl
    cases last with
    | name n => exact absurd rfl (hlast n)
    | root | here | parent => simp [walk, push]

/-- Each component of a normal location is one that the components before it lead to. -/
theorem walk_next (h : Normal (l ++ c :: rest)) (hroot : c ≠ .root) : walk l [c] = l ++ [c] := by
  cases c with
  | root => exact absurd rfl hroot
  | here => exact (h.proper .here (by simp)).elim
  | parent => exact walk_parent h.precedes
  | name n => exact walk_name l n

/-- One more component keeps a location normal. -/
theorem normal_step (h : Normal l) (hc : c.Proper) (hroot : c ≠ .root) :
    Normal (walk l [c]) := by
  cases c with
  | root => exact absurd rfl hroot
  | here => exact hc.elim
  | name n =>
    rw [walk_name]
    exact h.concat hc fun a _ => a.precedes_name n
  | parent =>
    rcases h.ends_or_precedes with ⟨front, n, rfl⟩ | hends
    · rw [walk_parent_name]
      exact h.front
    · rw [walk_parent hends]
      exact h.concat trivial hends

theorem normal_walk (h : Normal l) (hcs : ∀ c ∈ cs, c.Proper ∧ c ≠ .root) :
    Normal (walk l cs) := by
  induction cs generalizing l with
  | nil => rwa [walk_nil]
  | cons c cs ih =>
    obtain ⟨⟨hc, hroot⟩, hcs⟩ := List.forall_mem_cons.mp hcs
    have hwalk : walk l (c :: cs) = walk (walk l [c]) cs := walk_append l [c] cs
    rw [hwalk]
    exact ih (normal_step h hc hroot) hcs

/-- All locations of paths are normal. -/
theorem normal_location (p : Path) : Normal p.location := by
  have hbelow : ∀ c ∈ below p.octets, c.Proper ∧ c ≠ .root := fun c hc => proper_of_mem_below hc
  cases hrooted : p.isRooted with
  | false =>
    rw [location_of_relative hrooted]
    exact normal_walk .nil hbelow
  | true =>
    have hroot : Normal [.root] := Normal.nil.concat trivial fun _ ha => nomatch ha
    have hlocation : p.location = walk [.root] (below p.octets) := by
      rw [location_eq, components, start, hrooted]
      rfl
    rw [hlocation]
    exact normal_walk hroot hbelow

end Path

end IncludeRules
