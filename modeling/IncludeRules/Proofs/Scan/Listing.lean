import IncludeRules.Proofs.Octets.Order
import IncludeRules.Proofs.Scan.Existing

/-! The paths that a pattern with wildcards stands for, and their order. -/

namespace IncludeRules

section

variable {α β : Type} {R : α → α → Prop} {l : List α}

/-- A sort is stable: of two elements that it may leave in either order, the first one stays first. -/
theorem pairwise_mergeSort_stable {le : α → α → Bool}
    (trans : ∀ a b c, le a b = true → le b c = true → le a c = true)
    (total : ∀ a b, (le a b || le b a) = true) (h : l.Pairwise R) :
    (l.mergeSort le).Pairwise fun a b => le a b = true ∧ (le b a = true → R a b) := by
  induction l with
  | nil =>
    rw [List.mergeSort_nil]
    exact .nil
  | cons a l ih =>
    obtain ⟨hfirst, hrest⟩ := List.pairwise_cons.mp h
    obtain ⟨before, after, hsort, hmerged, hbefore⟩ := List.mergeSort_cons trans total a l
    have hordered := List.pairwise_mergeSort trans total (a :: l)
    have ih := ih hrest
    rw [hmerged] at ih
    rw [hsort] at hordered ⊢
    obtain ⟨ihbefore, ihafter, ihboth⟩ := List.pairwise_append.mp ih
    obtain ⟨-, hafter, hacross⟩ := List.pairwise_append.mp hordered
    refine List.pairwise_append.mpr ⟨ihbefore, List.pairwise_cons.mpr ⟨?_, ihafter⟩, ?_⟩
    · intro b hb
      have hmem : b ∈ l.mergeSort le := hmerged ▸ List.mem_append_right _ hb
      exact ⟨(List.pairwise_cons.mp hafter).1 b hb, fun _ => hfirst b (List.mem_mergeSort.mp hmem)⟩
    · intro b hb c hc
      rcases List.mem_cons.mp hc with rfl | hc
      · -- the sort puts only what is strictly less before the first element
        refine ⟨hacross b hb c List.mem_cons_self, fun hle => ?_⟩
        have hless := hbefore b hb
        rw [hle] at hless
        cases hless
      · exact ihboth b hb c hc

/-- A sort by a key orders by the key first, and then as it was. -/
theorem pairwise_mergeSort_key [LinearOrder β] (key : α → β)
    [∀ a b, Decidable (key a ≤ key b)] (h : l.Pairwise R) :
    (l.mergeSort fun a b => decide (key a ≤ key b)).Pairwise fun a b =>
      key a < key b ∨ key a = key b ∧ R a b := by
  have htrans (a b c : α) (hab : decide (key a ≤ key b) = true)
      (hbc : decide (key b ≤ key c) = true) : decide (key a ≤ key c) = true :=
    decide_eq_true (le_trans (of_decide_eq_true hab) (of_decide_eq_true hbc))
  have htotal (a b : α) : (decide (key a ≤ key b) || decide (key b ≤ key a)) = true := by
    rcases le_total (key a) (key b) with hle | hle
    · rw [decide_eq_true hle, Bool.true_or]
    · rw [decide_eq_true hle, Bool.or_true]
  refine (pairwise_mergeSort_stable htrans htotal h).imp ?_
  rintro a b ⟨hle, htie⟩
  rcases lt_or_eq_of_le (of_decide_eq_true hle) with hlt | heq
  · exact Or.inl hlt
  · exact Or.inr ⟨heq, htie (decide_eq_true (le_of_eq heq.symm))⟩

end

namespace Scan

variable {s t : Store} {pattern a b : String} {p : Pattern} {names others : List String}

/-- The path of an entry, with the directory part of a pattern before it. -/
def spelled (pattern name : String) : String :=
  .ofList (splitPattern pattern).1 ++ name

/-- The lower-case form of the path of an entry. -/
def folded (pattern name : String) : String :=
  .ofList (Text.lower (spelled pattern name).toList)

/-- The order of entries: octet by octet, the lower-case forms of their paths count first, and where
these are the same, their names. -/
def ListedBefore (pattern a b : String) : Prop :=
  Octets.ofString (folded pattern a) < Octets.ofString (folded pattern b) ∨
    folded pattern a = folded pattern b ∧ Octets.ofString a < Octets.ofString b

instance (pattern a b : String) : Decidable (ListedBefore pattern a b) :=
  inferInstanceAs (Decidable (_ ∨ _ ∧ _))

/-- All entries of a directory that a pattern takes and no others, in their order. -/
structure Listed (s : Store) (pattern : String) (p : Pattern) (names : List String) : Prop where
  mem_iff : ∀ name, name ∈ names ↔ name ∈ s.entries (listedIn pattern) ∧ p.accepts name = true
  ordered : names.Pairwise (ListedBefore pattern)

theorem listedBefore_iff : ListedBefore pattern a b ↔
    folded pattern a < folded pattern b ∨ folded pattern a = folded pattern b ∧ a < b := by
  rw [ListedBefore, Octets.ofString_lt_ofString_iff, Octets.ofString_lt_ofString_iff]

instance (pattern : String) : Std.Irrefl (ListedBefore pattern) where
  irrefl a h := by
    rcases listedBefore_iff.mp h with hkey | ⟨-, hname⟩
    · exact lt_irrefl _ hkey
    · exact lt_irrefl _ hname

instance (pattern : String) : Std.Antisymm (ListedBefore pattern) where
  antisymm a b hab hba := by
    rcases listedBefore_iff.mp hab with hkey | ⟨hkey, hname⟩
    · rcases listedBefore_iff.mp hba with hback | ⟨hback, -⟩
      · exact absurd hback (lt_asymm hkey)
      · exact absurd hback (ne_of_gt hkey)
    · rcases listedBefore_iff.mp hba with hback | ⟨-, hback⟩
      · exact absurd hkey (ne_of_gt hback)
      · exact absurd hback (lt_asymm hname)

/-- There is one such list only. -/
theorem Listed.unique (h : Listed s pattern p names) (k : Listed s pattern p others) :
    others = names :=
  k.ordered.eq_of_mem_iff h.ordered fun name => (k.mem_iff name).trans (h.mem_iff name).symm

theorem Listed.nodup (h : Listed s pattern p names) : (names.map (spelled pattern)).Nodup := by
  refine h.ordered.nodup.map ?_
  intro a b hab
  exact (String.append_right_inj _).mp hab

/-- The entries that a pattern takes from a directory, as they are reported. -/
def listing (s : Store) (pattern : String) (p : Pattern) : List String :=
  ((s.entries (listedIn pattern)).filter p.accepts).mergeSort fun a b =>
    decide (folded pattern a ≤ folded pattern b)

/-- To sort paths is to sort the entries that they are spelled from. -/
theorem sortFolded_map_spelled (pattern : String) (names : List String) :
    sortFolded (names.map (spelled pattern)) =
      (names.mergeSort fun a b => decide (folded pattern a ≤ folded pattern b)).map
        (spelled pattern) := by
  rw [List.map_mergeSort]
  · rfl
  · exact fun _ _ _ _ => rfl

theorem listed_listing (s : Store) (pattern : String) (p : Pattern) :
    Listed s pattern p (listing s pattern p) where
  mem_iff name := by rw [listing, List.mem_mergeSort, List.mem_filter]
  ordered := by
    have hentries : ((s.entries (listedIn pattern)).filter p.accepts).Pairwise (· < ·) :=
      (s.entries_pairwise (listedIn pattern)).filter _
    exact (pairwise_mergeSort_key (folded pattern) hentries).imp listedBefore_iff.mpr

/-- What an expansion is done with that lists a directory. -/
theorem expand_run (hplain : Pattern.hasWildcard (splitPattern pattern).1 = false)
    (hwild : Pattern.hasWildcard (splitPattern pattern).2 = true)
    (hparse : Pattern.parse (splitPattern pattern).2 = .ok p)
    (hdirectory : s.isDirectory (listedIn pattern) = true) :
    (expand pattern).run Store.fileSystem s =
      (⟨[], .done ((listing s pattern p).map (spelled pattern))⟩, s) := by
  have hanswer : Store.fileSystem.answer (.isDirectory (listedIn pattern)) s = (.ok true, s) :=
    Store.answer_isDirectory_eq_iff.mpr ⟨hdirectory, rfl⟩
  have hentries : Store.fileSystem.answer (.entries (listedIn pattern)) s =
      (.ok (.ok (s.entries (listedIn pattern))), s) :=
    Store.answer_entries_eq_iff.mpr ⟨hdirectory, rfl, rfl⟩
  have hcourse : (expand pattern).course Store.fileSystem s =
      (⟨[.asked (.isDirectory (listedIn pattern)) true,
        .asked (.entries (listedIn pattern)) (.ok (s.entries (listedIn pattern)))],
        .done (sortFolded (((s.entries (listedIn pattern)).filter p.accepts).map
          (spelled pattern)))⟩, s) := by
    unfold expand
    dsimp only
    rw [hplain, if_neg Bool.false_ne_true, hwild, if_neg (by decide), ← listedIn, hparse]
    simp only [Script.isDirectory, Script.call_bind, Script.done_bind, Script.course_call, hanswer,
      Bool.not_true, Bool.false_eq_true, if_false]
    rw [Except.mapError, Script.ofExcept, Script.done_bind, Script.entries, Script.call_bind,
      Script.course_call, hentries]
    rfl
  rw [Script.run_of_course hcourse, sortFolded_map_spelled]
  rfl

theorem listing_congr (h : ∀ l, l ∈ t.locations ↔ l ∈ s.locations) (pattern : String)
    (p : Pattern) : listing t pattern p = listing s pattern p := by
  have hentries : t.entries (listedIn pattern) = s.entries (listedIn pattern) :=
    Store.entries_congr fun l _ => h l
  rw [listing, listing, hentries]

/-- Files whose names differ in case only, and some that differ otherwise. -/
def mixedCase : List (Path × Octets) :=
  ["src/b.c", "src/A.c", "src/a.c", "src/a/B.c", "src/B.c"].map fun path => (.ofString path, [])

theorem listed_mixedCase :
    Listed (Store.empty.insertAll mixedCase) "src/*.c" [.many, .char '.', .char 'c']
      ["A.c", "a.c", "B.c", "b.c"] where
  mem_iff name := by
    have hbelow : ((Store.empty.insertAll mixedCase).locations.filterMap
        ((listedIn "src/*.c").location.isPrefixOf? ·)).filterMap
          (fun l => l.head?.bind Store.entryName?) = ["b.c", "A.c", "a.c", "a", "B.c"] := by
      decide +kernel
    have hmatching : ["b.c", "A.c", "a.c", "a", "B.c"].filter
        (Pattern.accepts [.many, .char '.', .char 'c']) = ["b.c", "A.c", "a.c", "B.c"] := by
      decide +kernel
    have hperm : ["A.c", "a.c", "B.c", "b.c"].Perm ["b.c", "A.c", "a.c", "B.c"] := by decide
    rw [Store.entries, mem_eraseReps, List.mem_mergeSort, hbelow, ← List.mem_filter, hmatching]
    exact hperm.mem_iff
  ordered := by decide +kernel

end Scan

end IncludeRules
