import IncludeRules.Pattern.Match

/-! Which patterns match a hidden name, one that starts with a dot. -/

namespace IncludeRules.Pattern

variable {k m n : Nat} {s rest t : List Char} {w : Wildcard} {p ws : Pattern}

/-- How one item of a pattern is written at a position. -/
inductive Item (k : Nat) : List Char → Wildcard → List Char → Prop
  | any (rest : List Char) : Item k ('?' :: rest) .any rest
  | many {rest : List Char} (alone : rest.head? ≠ some '*') : Item k ('*' :: rest) .many rest
  | tree (first : k = 0) : Item k ['*', '*'] .tree []
  | group {s rest : List Char} {w : Wildcard} (taken : takeClass? s = some (w, rest)) :
    Item k ('[' :: s) w rest
  | char {c : Char} (rest : List Char) (plain : c ≠ '?' ∧ c ≠ '*' ∧ c ≠ '[') :
    Item k (c :: rest) (.char c) rest

theorem takeWhile_star_eq_zero_iff :
    (rest.takeWhile (· == '*')).length = 0 ↔ rest.head? ≠ some '*' := by
  cases rest with
  | nil => simp
  | cons c rest => by_cases h : c = '*' <;> simp [h]

/-- One star is followed by another and by nothing else. -/
theorem eq_star_of_takeWhile (hstars : (rest.takeWhile (· == '*')).length = 1)
    (hlength : rest.length = 1) : rest = ['*'] := by
  obtain ⟨c, rfl⟩ := List.length_eq_one_iff.mp hlength
  by_cases hc : c = '*'
  · rw [hc]
  · simp [hc] at hstars

theorem takeWildcard_cases {r : Option (Wildcard × List Char)} (h : takeWildcard k s = .ok r) :
    s = [] ∧ r = none ∨ ∃ w rest, Item k s w rest ∧ r = some (w, rest) := by
  unfold takeWildcard at h
  split at h
  · cases h
    exact Or.inl ⟨rfl, rfl⟩
  · cases h
    exact Or.inr ⟨_, _, .any _, rfl⟩
  · split at h
    · next hstars =>
      cases h
      exact Or.inr ⟨_, _, .many (takeWhile_star_eq_zero_iff.mp hstars), rfl⟩
    · next hstars =>
      split at h
      · cases h
      · next hfirst =>
        split at h
        · cases h
        · next hlength =>
          cases h
          cases eq_star_of_takeWhile hstars (Decidable.not_not.mp hlength)
          exact Or.inr ⟨_, _, .tree (Decidable.not_not.mp hfirst), rfl⟩
    · cases h
  · split at h
    · next taken =>
      cases h
      exact Or.inr ⟨_, _, .group taken, rfl⟩
    · cases h
  · next hany hmany hgroup =>
    cases h
    exact Or.inr ⟨_, _, .char _ ⟨hany, hmany, hgroup⟩, rfl⟩

theorem Item.takeWildcard_eq (h : Item k s w rest) : takeWildcard k s = .ok (some (w, rest)) := by
  cases h with
  | any => rfl
  | many alone => simp [takeWildcard, takeWhile_star_eq_zero_iff.mpr alone]
  | tree first =>
    subst first
    rfl
  | group taken => simp [takeWildcard, taken]
  | char rest plain => simp [takeWildcard, plain]

theorem takeClass?_ne (h : takeClass? s = some (w, rest)) :
    isStar w = false ∧ ∀ c, w ≠ .char c := by
  unfold takeClass? at h
  split at h
  · split at h <;> cases h
    exact ⟨rfl, fun _ h => nomatch h⟩
  · split at h <;> cases h
    exact ⟨rfl, fun _ h => nomatch h⟩
  · cases h

/-- A character that is matched as such stands in the pattern. -/
theorem Item.eq_char {c : Char} (h : Item k s (.char c) rest) : s = c :: rest := by
  cases h with
  | group taken => exact absurd rfl ((takeClass?_ne taken).2 c)
  | char => rfl

theorem Item.eq_star (h : Item k s w rest) (hstar : isStar w = true) :
    s = '*' :: rest ∧ rest.head? ≠ some '*' ∨ s = ['*', '*'] ∧ rest = [] := by
  cases h with
  | any => cases hstar
  | many alone => exact Or.inl ⟨rfl, alone⟩
  | tree => exact Or.inr ⟨rfl, rfl⟩
  | group taken => exact absurd hstar (by simp [(takeClass?_ne taken).1])
  | char => cases hstar

/-- Only two stars depend on where they stand. -/
theorem Item.elsewhere (h : Item k s w rest) (hk : k ≠ 0) : Item m s w rest := by
  cases h with
  | any => exact .any _
  | many alone => exact .many alone
  | tree first => exact absurd first hk
  | group taken => exact .group taken
  | char rest plain => exact .char rest plain

theorem parseFrom_item (h : Item (n - s.length) s w rest) :
    parseFrom n s = (w :: ·) <$> parseFrom n rest := by
  have hitem := h.takeWildcard_eq
  rw [parseFrom]
  split
  · next he => cases he.symm.trans hitem
  · next hend => cases hend.symm.trans hitem
  · next w' rest' hitem' =>
    cases hitem'.symm.trans hitem
    rfl

/-- Nothing is left of a pattern that is read, or its first item is taken. -/
theorem parseFrom_cases (h : parseFrom n s = .ok p) :
    s = [] ∧ p = [] ∨ ∃ w rest ws, Item (n - s.length) s w rest ∧ parseFrom n rest = .ok ws ∧
      p = w :: ws := by
  rw [parseFrom] at h
  split at h
  · cases h
  · next hend =>
    rcases takeWildcard_cases hend with ⟨hs, -⟩ | ⟨w, rest, -, hr⟩
    · cases h
      exact Or.inl ⟨hs, rfl⟩
    · cases hr
  · next w rest hitem =>
    rcases takeWildcard_cases hitem with ⟨-, hr⟩ | ⟨w', rest', hitem, hr⟩
    · cases hr
    · cases hr
      cases hrest : parseFrom n rest with
      | error e =>
        rw [hrest] at h
        cases h
      | ok ws =>
        rw [hrest] at h
        cases h
        exact Or.inr ⟨w, rest, ws, hitem, hrest, rfl⟩

theorem Item.length_lt (h : Item k s w rest) : rest.length < s.length :=
  takeWildcard_length h.takeWildcard_eq

/-- What stands after something else in a pattern is read alike after anything else. -/
theorem parseFrom_elsewhere (h : parseFrom n s = .ok p) (hn : s.length < n) (hm : s.length < m) :
    parseFrom m s = .ok p := by
  induction p generalizing s with
  | nil =>
    rcases parseFrom_cases h with ⟨rfl, -⟩ | ⟨w, rest, ws, -, -, hp⟩
    · rw [parseFrom]
      rfl
    · cases hp
  | cons w ws ih =>
    rcases parseFrom_cases h with ⟨-, hp⟩ | ⟨w, rest, ws, hitem, hrest, hp⟩
    · cases hp
    · cases hp
      have hlt := hitem.length_lt
      rw [parseFrom_item (hitem.elsewhere (by omega)), ih hrest (by omega) (by omega)]
      rfl

@[simp] theorem matchesAny_nil (leads : Bool) (t : List Char) : matchesAny leads [] t = false := by
  induction t generalizing leads with
  | nil => rfl
  | cons c t ih => exact ih _

/-- What is left of a pattern after its first character decides on the rest of a name. -/
theorem matchesAny_singleton (leads : Bool) (p : Pattern) (c : Char) (t : List Char) :
    matchesAny leads [p] (c :: t) = matchesAny (c == '/') (advance leads c p).eraseDups t := by
  rw [matchesAny, List.flatMap_singleton]

theorem takes_dot (h : takes true w '.' = true) : w = .char '.' := by
  cases w with
  | char a => exact congrArg Wildcard.char (eq_of_beq h).symm
  | any | many | tree | oneOf | noneOf => cases h

/-- What a pattern must start with to go on after a leading dot: a dot, or a star that is passed
over. -/
theorem advance_dot (h : advance true '.' (w :: ws) ≠ []) :
    w = .char '.' ∨ isStar w = true ∧ advance true '.' (w :: ws) = advance true '.' ws := by
  cases hstar : isStar w with
  | true => exact Or.inr ⟨rfl, by simp [advance, hstar]⟩
  | false =>
    cases htakes : takes true w '.' with
    | true => exact Or.inl (takes_dot htakes)
    | false => exact absurd (by simp [advance, hstar, htakes]) h

/-- A pattern that goes on after a leading dot is written with that dot, with nothing or one star
before it. The star plays no part: without it the pattern goes on alike. -/
theorem hidden_cases (hparse : parse s = .ok p) (h : advance true '.' p ≠ []) :
    ∃ rest q, (s = '.' :: rest ∨ s = '*' :: '.' :: rest) ∧ parse ('.' :: rest) = .ok q ∧
      advance true '.' p = advance true '.' q := by
  rcases parseFrom_cases hparse with ⟨-, rfl⟩ | ⟨w, rest, ws, hitem, hrest, rfl⟩
  · exact absurd rfl h
  rcases advance_dot h with rfl | ⟨hstar, hskip⟩
  · cases hitem.eq_char
    exact ⟨rest, _, Or.inl rfl, hparse, rfl⟩
  rw [hskip] at h ⊢
  rcases parseFrom_cases hrest with ⟨-, rfl⟩ | ⟨v, later, vs, hnext, hlater, rfl⟩
  · exact absurd rfl h
  rcases hitem.eq_star hstar with ⟨rfl, halone⟩ | ⟨-, rfl⟩
  · rcases advance_dot h with rfl | ⟨hstar, -⟩
    · cases hnext.eq_char
      have hdot : Item (('.' :: later).length - ('.' :: later).length) ('.' :: later) (.char '.')
          later := .char later (by decide)
      have hsame : parseFrom ('.' :: later).length later = .ok vs :=
        parseFrom_elsewhere hlater (by simp only [List.length_cons]; omega) (by simp)
      refine ⟨later, .char '.' :: vs, Or.inr rfl, ?_, rfl⟩
      rw [parse, parseFrom_item hdot, hsame]
      rfl
    · -- a second star would have been read together with the first one
      rcases hnext.eq_star hstar with ⟨rfl, -⟩ | ⟨rfl, -⟩
      · exact absurd rfl halone
      · exact absurd rfl halone
  · cases hnext

/-- A pattern that matches a hidden name starts with a dot, or with a star before a dot; without the
star it matches the same hidden names. -/
theorem accepts_hidden {name : String} (hparse : parse s = .ok p) (haccepts : p.accepts name = true)
    (hhidden : name.toList.head? = some '.') :
    ∃ rest q, (s = '.' :: rest ∨ s = '*' :: '.' :: rest) ∧ parse ('.' :: rest) = .ok q ∧
      ∀ other : String, other.toList.head? = some '.' → p.accepts other = q.accepts other := by
  obtain ⟨t, ht⟩ := List.head?_eq_some_iff.mp hhidden
  rw [accepts, ht, matchesAny_singleton] at haccepts
  have hadvance : advance true '.' p ≠ [] := by
    intro hnil
    rw [hnil] at haccepts
    simp at haccepts
  obtain ⟨rest, q, hs, hq, hsame⟩ := hidden_cases hparse hadvance
  refine ⟨rest, q, hs, hq, fun other hother => ?_⟩
  obtain ⟨u, hu⟩ := List.head?_eq_some_iff.mp hother
  rw [accepts, accepts, hu, matchesAny_singleton, matchesAny_singleton, hsame]

end IncludeRules.Pattern
