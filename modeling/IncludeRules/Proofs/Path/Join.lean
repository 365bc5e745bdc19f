import IncludeRules.Path.Normal
import IncludeRules.Proofs.Octets.RoundTrip

/-! The components of a path that is put together from a directory and what lies below it. -/

namespace IncludeRules.Path

variable {a b : Octets} {dir name : Path} {l : Location} {cs ds : List Component}

/-- The components that the pieces of a spelling stand for, wherever it stands. -/
def below (b : Octets) : List Component :=
  (b.splitOnP (· == slash)).filterMap component?

/-- Where components lead from a location. -/
def walk (l : Location) (cs : List Component) : Location :=
  (cs.foldl push l.reverse).reverse

theorem location_eq (p : Path) : p.location = walk [] p.components := rfl

@[simp] theorem walk_nil (l : Location) : walk l [] = l := List.reverse_reverse l

theorem walk_append (l : Location) (cs ds : List Component) :
    walk l (cs ++ ds) = walk (walk l cs) ds := by
  rw [walk, walk, walk, List.foldl_append, List.reverse_reverse]

theorem splitOnP_slash_append (a b : Octets) :
    (a ++ slash :: b).splitOnP (· == slash) =
      a.splitOnP (· == slash) ++ b.splitOnP (· == slash) :=
  List.splitOnP_append_cons a b rfl

theorem splitOnP_slash_eq_singleton (h : slash ∉ a) : a.splitOnP (· == slash) = [a] :=
  List.splitOn_eq_singleton h

theorem below_append (a b : Octets) : below (a ++ slash :: b) = below a ++ below b := by
  rw [below, splitOnP_slash_append, List.filterMap_append, below, below]

theorem below_slash (b : Octets) : below (slash :: b) = below b :=
  below_append [] b

/-- Slashes at the start name nothing, once the place is known from which a spelling is read. -/
theorem below_dropWhile_slash (b : Octets) : below (b.dropWhile (· == slash)) = below b := by
  induction b with
  | nil => rfl
  | cons x b ih =>
    by_cases hx : x = slash
    · subst hx
      rw [List.dropWhile_cons_of_pos (by simp), ih, below_slash]
    · rw [List.dropWhile_cons_of_neg (by simpa using hx)]

theorem head?_splitOnP_append (a b : Octets) :
    ((a ++ slash :: b).splitOnP (· == slash)).head? = (a.splitOnP (· == slash)).head? := by
  obtain ⟨piece, pieces, ha⟩ := List.exists_cons_of_ne_nil (List.splitOnP_ne_nil (· == slash) a)
  rw [splitOnP_slash_append, ha]
  rfl

/-- What follows a slash adds its components. -/
theorem components_append (a b : Octets) :
    (mk (a ++ slash :: b)).components = (mk (a ++ [slash])).components ++ below b := by
  have hrooted : (mk (a ++ slash :: b)).isRooted = (mk (a ++ [slash])).isRooted := by
    cases a <;> rfl
  have hbelow := below_append a b
  have hbelow' := below_append a []
  rw [below] at hbelow hbelow'
  rw [components, components, start, start, hrooted, head?_splitOnP_append, head?_splitOnP_append,
    hbelow, hbelow', show below [] = [] from rfl, List.append_nil, List.append_assoc]

/-- A slash at the end of a spelling changes nothing, unless it is all there is. -/
theorem components_slash (h : a ≠ []) : (mk (a ++ [slash])).components = (mk a).components := by
  have hrooted : (mk (a ++ [slash])).isRooted = (mk a).isRooted := by
    cases a with
    | nil => exact absurd rfl h
    | cons => rfl
  have hbelow := below_append a []
  rw [below, show below [] = [] from rfl, List.append_nil] at hbelow
  rw [components, components, start, start, hrooted, head?_splitOnP_append, hbelow, below]

theorem location_append (a b : Octets) :
    (mk (a ++ slash :: b)).location = walk (mk (a ++ [slash])).location (below b) := by
  rw [location_eq, components_append, walk_append, ← location_eq]

theorem location_slash (h : a ≠ []) : (mk (a ++ [slash])).location = (mk a).location := by
  rw [location_eq, components_slash h, ← location_eq]

/-- A dot at the start of a path that is not rooted stays on the spot. -/
theorem location_of_relative {p : Path} (h : p.isRooted = false) :
    p.location = walk [] (below p.octets) := by
  rw [location_eq, components, start, h]
  by_cases hdot : (p.octets.splitOnP (· == slash)).head? = some [dot]
  · rw [if_neg Bool.false_ne_true, if_pos hdot]
    rfl
  · rw [if_neg Bool.false_ne_true, if_neg hdot]
    rfl

/-- Where a path leads that is seen from a directory depends on the directory's location only. -/
theorem location_join (h : name.isRooted = false) :
    (dir.join name).location = walk dir.location (below name.octets) := by
  obtain ⟨a⟩ := dir
  rw [join, if_neg (by simp [h])]
  by_cases ha : a = []
  · subst ha
    exact location_of_relative h
  by_cases hslash : a.getLast? = some slash
  · obtain ⟨front, rfl⟩ := List.getLast?_eq_some_iff.mp hslash
    rw [if_pos (Or.inr hslash), List.append_assoc]
    exact location_append front name.octets
  · rw [if_neg (by simp [ha, hslash])]
    exact (location_append a name.octets).trans (by rw [location_slash ha])

theorem ofString_ends_in_slash {s : String} (h : s.toList.getLast? = some '/') :
    ∃ front, Octets.ofString s = front ++ [slash] := by
  obtain ⟨front, hs⟩ := List.getLast?_eq_some_iff.mp h
  exact ⟨front.flatMap String.utf8EncodeChar, by rw [Octets.ofString, hs, List.flatMap_append]; rfl⟩

/-- What a text adds to a directory that is spelled with a slash at its end. -/
theorem location_ofString_append {s : String} (h : s.toList.getLast? = some '/') (t : String) :
    (ofString (s ++ t)).location = walk (ofString s).location (below (.ofString t)) := by
  obtain ⟨front, hs⟩ := ofString_ends_in_slash h
  rw [ofString, ofString, Octets.ofString_append, hs, List.append_assoc]
  exact location_append front (.ofString t)

end IncludeRules.Path
