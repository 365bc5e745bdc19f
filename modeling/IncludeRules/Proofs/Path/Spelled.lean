import IncludeRules.Proofs.Path.Normal
import IncludeRules.Proofs.Store.Files

/-! Locations are read back from their spelling, so a normal form can stand for a path wherever more
is joined to it, and names the same file. -/

namespace IncludeRules

variable {l rest : Location} {c : Component} {cs : List Component} {n : Octets}

/-- A root at most, then parent steps, then names. -/
def Location.Shaped (l : Location) : Prop :=
  ∃ (root : List Component) (parents : Nat) (names : List Octets),
    (root = [] ∨ root = [.root]) ∧ (∀ n ∈ names, Component.Proper (.name n)) ∧
      l = root ++ List.replicate parents .parent ++ names.map .name

namespace Location.Normal

/-- Only the first component can be a root. -/
theorem rootless (h : Normal (c :: rest)) : ∀ d ∈ rest, d.Proper ∧ d ≠ .root := by
  intro d hd
  exact ⟨h.proper d (List.mem_cons_of_mem c hd), ((List.pairwise_cons.mp h.ordered).1 d hd).1⟩

theorem shaped (h : Normal l) : l.Shaped := by
  induction l using List.reverseRecOn with
  | nil => exact ⟨[], 0, [], Or.inl rfl, (fun _ hn => nomatch hn), rfl⟩
  | append_singleton l c ih =>
    obtain ⟨root, parents, names, hroot, hnames, rfl⟩ := ih h.front
    cases c with
    | here => exact (h.proper .here (by simp)).elim
    | root =>
      refine ⟨[.root], 0, [], Or.inr rfl, (fun _ hn => nomatch hn), ?_⟩
      rw [h.eq_nil_of_root]
      rfl
    | parent =>
      -- no name can stand before a parent step
      have hnil : names = [] := by
        refine List.eq_nil_iff_forall_not_mem.mpr fun n hn => ?_
        exact (h.precedes (.name n) (by simp [hn])).2 rfl n rfl
      subst hnil
      refine ⟨root, parents + 1, [], hroot, hnames, ?_⟩
      simp [List.replicate_succ', List.append_assoc]
    | name n =>
      have hn := h.proper (.name n) (by simp)
      refine ⟨root, parents, names ++ [n], hroot, ?_, by simp⟩
      intro m hm
      rcases List.mem_append.mp hm with hm | hm
      · exact hnames m hm
      · exact List.mem_singleton.mp hm ▸ hn

end Location.Normal

theorem Location.Shaped.normal (h : l.Shaped) : l.Normal := by
  obtain ⟨root, parents, names, hroot, hnames, rfl⟩ := h
  have hfront : Location.Normal (root ++ List.replicate parents .parent) := by
    induction parents with
    | zero =>
      rcases hroot with rfl | rfl
      · exact .nil
      · exact Location.Normal.nil.concat trivial fun _ ha => nomatch ha
    | succ parents ih =>
      have hnone : ∀ a ∈ root ++ List.replicate parents .parent, ∀ n, a ≠ .name n := by
        intro a ha n hn
        subst hn
        rcases List.mem_append.mp ha with ha | ha
        · rcases hroot with rfl | rfl
          · cases ha
          · cases List.mem_singleton.mp ha
        · cases List.eq_of_mem_replicate ha
      rw [List.replicate_succ', ← List.append_assoc]
      exact ih.concat trivial fun a ha => Component.precedes_parent (hnone a ha)
  induction names using List.reverseRecOn with
  | nil => simpa using hfront
  | append_singleton names n ih =>
    obtain ⟨hnames, hn⟩ := List.forall_mem_append.mp hnames
    rw [List.map_append, ← List.append_assoc]
    exact (ih hnames).concat (hn n (by simp)) fun a _ => a.precedes_name n

namespace Path

open Location

/-- The normal form of a path. -/
def normalize (p : Path) : Path :=
  ofLocation p.location

theorem below_piece (hc : c.Proper) (hroot : c ≠ .root) : below (spell.piece c) = [c] := by
  cases c with
  | root => exact absurd rfl hroot
  | here => exact hc.elim
  | parent => rfl
  | name n => exact Component.below_name hc

theorem slash_notMem_piece (hc : c.Proper) : slash ∉ spell.piece c := by
  cases c with
  | root => exact List.not_mem_nil
  | here => exact hc.elim
  | parent => decide
  | name n => exact hc.1

theorem spell_cons (hroot : c ≠ .root) (rest : List Component) :
    spell (c :: rest) =
      if rest = [] then spell.piece c else spell.piece c ++ slash :: spell rest := by
  cases c with
  | root => exact absurd rfl hroot
  | here | parent | name => cases rest <;> rfl

/-- Components other than a root are read back from their spelling. -/
theorem below_spell (h : ∀ c ∈ cs, c.Proper ∧ c ≠ .root) : below (spell cs) = cs := by
  induction cs with
  | nil => rfl
  | cons c rest ih =>
    obtain ⟨⟨hc, hroot⟩, hrest⟩ := List.forall_mem_cons.mp h
    rw [spell_cons hroot]
    split
    · next hnil => rw [below_piece hc hroot, hnil]
    · rw [below_append, below_piece hc hroot, ih hrest, List.singleton_append]

theorem piece_ne (hc : c.Proper) (hroot : c ≠ .root) :
    spell.piece c ≠ [] ∧ spell.piece c ≠ [dot] := by
  cases c with
  | root => exact absurd rfl hroot
  | here => exact hc.elim
  | parent => exact ⟨by decide, by decide⟩
  | name n =>
    constructor
    · rintro (rfl : n = [])
      exact absurd hc.2 (by decide)
    · rintro (rfl : n = [dot])
      exact absurd hc.2 (by decide)

/-- Without a root nothing is read before the pieces of a spelling: it starts with neither a slash
nor a dot that stands alone. -/
theorem start_spell (h : ∀ c ∈ cs, c.Proper ∧ c ≠ .root) :
    (mk (spell cs)).start ((spell cs).splitOnP (· == slash)) = [] := by
  cases cs with
  | nil => rfl
  | cons c rest =>
    obtain ⟨hc, hroot⟩ := h c List.mem_cons_self
    obtain ⟨hnil, hdot⟩ := piece_ne hc hroot
    have hfirst : (spell (c :: rest)).head? = (spell.piece c).head? ∧
        ((spell (c :: rest)).splitOnP (· == slash)).head? = some (spell.piece c) := by
      have hpiece := splitOnP_slash_eq_singleton (slash_notMem_piece hc)
      rw [spell_cons hroot]
      split
      · rw [hpiece]
        exact ⟨rfl, rfl⟩
      · rw [head?_splitOnP_append, hpiece, List.head?_append_of_ne_nil _ hnil]
        exact ⟨rfl, rfl⟩
    have hrooted : ¬(mk (spell (c :: rest))).isRooted = true := by
      intro hslash
      have hhead : (spell.piece c).head? = some slash := hfirst.1.symm.trans (eq_of_beq hslash)
      exact slash_notMem_piece hc (List.mem_of_mem_head? hhead)
    rw [start, if_neg hrooted, hfirst.2, if_neg fun hpiece => hdot (Option.some.inj hpiece)]

/-- The components of a spelled location are the location. -/
theorem components_ofLocation (h : Normal l) : (ofLocation l).components = l := by
  have hread (p : Path) :
      p.components = p.start (p.octets.splitOnP (· == slash)) ++ below p.octets := rfl
  rw [hread]
  cases l with
  | nil => rfl
  | cons c rest =>
    by_cases hroot : c = .root
    · subst hroot
      have hspell : spell (.root :: rest) = slash :: spell rest := rfl
      rw [ofLocation, hspell, below_slash, below_spell h.rootless]
      rfl
    · have hrootless : ∀ d ∈ c :: rest, d.Proper ∧ d ≠ .root :=
        List.forall_mem_cons.mpr ⟨⟨h.proper c List.mem_cons_self, hroot⟩, h.rootless⟩
      rw [ofLocation, start_spell hrootless, below_spell hrootless, List.nil_append]

/-- Nothing on the way to a location is taken back. -/
theorem walk_self (h : Normal l) : walk [] l = l := by
  induction l using List.reverseRecOn with
  | nil => rfl
  | append_singleton l c ih =>
    rw [walk_append, ih h.front]
    by_cases hroot : c = .root
    · subst hroot
      rw [h.eq_nil_of_root]
      rfl
    · exact walk_next h hroot

theorem location_ofLocation (h : Normal l) : (ofLocation l).location = l := by
  rw [location_eq, components_ofLocation h, walk_self h]

theorem components_normalize (p : Path) : p.normalize.components = p.location :=
  components_ofLocation (normal_location p)

theorem location_normalize (p : Path) : p.normalize.location = p.location :=
  location_ofLocation (normal_location p)

theorem normalize_eq_iff {p q : Path} : p.normalize = q.normalize ↔ p.location = q.location := by
  constructor
  · intro h
    rw [← components_normalize, h, components_normalize]
  · intro h
    rw [normalize, h, normalize]

/-- What is joined to a path may as well be joined to its normal form. -/
theorem normalize_join {a b : Path} (h : b.isRooted = false) :
    (a.join b).normalize = (a.normalize.join b).normalize := by
  rw [normalize_eq_iff, location_join h, location_join h, location_normalize]

theorem shaped_iff : l.Shaped ↔ ∃ p : Path, p.normalize.components = l := by
  constructor
  · intro h
    exact ⟨ofLocation l, by rw [components_normalize, location_ofLocation h.normal]⟩
  · rintro ⟨p, rfl⟩
    rw [components_normalize]
    exact (normal_location p).shaped

/-- A normal form stands for its path in every respect. What is seen from a path is, up to
normalization, what is seen from its normal form. A normal form is its own. Its components are the
stack that was left of the path; what can be left are exactly the lists of a root at most, then
parent steps, then names. And two paths have one normal form exactly when the same stack is left of
them; then, and only then, a file that is added under one is found under the other. -/
theorem normalize_lexical (a b : Path) :
    (b.isRooted = false → (a.join b).normalize = (a.normalize.join b).normalize) ∧
      a.normalize.normalize = a.normalize ∧
      a.normalize.components = a.location ∧
      (∀ l : Location, l.Shaped ↔ ∃ p : Path, p.normalize.components = l) ∧
      (a.normalize = b.normalize ↔ a.location = b.location) ∧
      ∀ (s : Store) (contents : Octets), (s.insert a contents).octets? b =
        if a.normalize = b.normalize then some contents else s.octets? b := by
  have hself : a.normalize.normalize = a.normalize := normalize_eq_iff.mpr (location_normalize a)
  refine ⟨normalize_join, hself, components_normalize a, fun l => shaped_iff, normalize_eq_iff, ?_⟩
  intro s contents
  simp only [Store.octets?_insert, normalize_eq_iff]

/-- A detour before a relative path makes no difference. -/
theorem normalize_lexical_detour :
    let a := Path.ofString "../gtk4/.."
    let b := Path.ofString "./src//a.h"
    b.isRooted = false ∧ (a.join b).normalize = ((Path.ofString "..").join b).normalize := by
  intro a b
  have hb : b.isRooted = false := by decide +kernel
  have ha : a.normalize = .ofString ".." := by decide +kernel
  have hjoin := (normalize_lexical a b).1 hb
  rw [ha] at hjoin
  exact ⟨hb, hjoin⟩

/-- Parent steps pile up where there is no name to take back, after a root as well. -/
example : (Path.ofString "/../a/../../b").normalize = .ofString "/../../b" := by
  decide +kernel

end Path

end IncludeRules
