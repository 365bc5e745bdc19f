/-! How similar two words are, by the share of characters they have in common. -/

namespace IncludeRules.CommandLine

/-- Takes the first unused occurrence of `c` among the places of `word` that lie in a window. Gives
its place. -/
def place? (c : Char) (low high : Nat) (used : List Nat) (word : List Char) : Option Nat :=
  (List.range (min high word.length)).find? fun j =>
    low ≤ j && !used.contains j && word[j]? == some c

/-- The places of matching characters in both words, each list in the order of the first word. A
character matches an equal one whose place differs by at most `reach`. -/
def matchPlaces (reach : Nat) (b : List Char) :
    List (Char × Nat) → List Nat → List (Nat × Nat)
  | [], _ => []
  | (c, i) :: rest, used =>
    match place? c (i - reach) (i + reach + 1) used b with
    | some j => (i, j) :: matchPlaces reach b rest (j :: used)
    | none => matchPlaces reach b rest used

/-- Whether the mean of three shares is above seven tenths, and that mean as a fraction: the matches
among the characters of either word, and the matches that are in order. -/
def similarity (a b : List Char) : Nat × Nat :=
  if a.isEmpty && b.isEmpty then (1, 1)
  else
    let reach := max a.length b.length / 2 - 1
    let places := matchPlaces reach b a.zipIdx []
    let m := places.length
    if m = 0 then (0, 1)
    else
      let inFirst := places.filterMap fun (i, _) => a[i]?
      let inSecond := ((places.map (·.2)).mergeSort fun x y => decide (x ≤ y)).filterMap (b[·]?)
      let moved := ((inFirst.zip inSecond).filter fun (x, y) => x != y).length / 2
      let p := a.length
      let q := b.length
      (m * m * q + m * m * p + (m - moved) * p * q, 3 * p * q * m)

/-- The candidates that are similar to a word, the most similar one last. -/
def similar (word : String) (candidates : List String) : List String :=
  let scored := candidates.map fun c => (similarity word.toList c.toList, c)
  let near := scored.filter fun ((n, d), _) => 7 * d < 10 * n
  (near.mergeSort fun ((n, d), _) ((k, e), _) => decide (n * e ≤ k * d)).map (·.2)

end IncludeRules.CommandLine
