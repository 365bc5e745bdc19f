import IncludeRules.Proofs.Script.Stateless
import IncludeRules.Scan.Headers

/-! The include graph of a file system without state, and the walk of a successful scan over it. -/

namespace IncludeRules

namespace Scan

variable {fs : FileSystem Id} {search : Search} {file name : String}
  {names found found' : List String} {depth : Nat}

/-- Whether a path exists. -/
def has (fs : FileSystem Id) (path : String) : Bool :=
  match fs.answer (.present (.ofString path)) with
  | .ok found => found
  | .error _ => false

/-- The names that a file includes. A file that cannot be read includes none. -/
def namesOf (fs : FileSystem Id) (file : String) : List String :=
  match fs.answer (.read (.ofString file)) with
  | .ok (.ok contents) => includedNames (Octets.lenient contents)
  | _ => []

/-- The path that a name stands for, if there is one: the first candidate that exists. -/
def target? (fs : FileSystem Id) (search : Search) (name : String) : Option String :=
  (search.directories.map (candidate · (search.renamed name))).find? (has fs)

/-- The edges of the include graph. -/
def Includes (fs : FileSystem Id) (search : Search) (a b : String) : Prop :=
  ∃ name ∈ namesOf fs a, target? fs search name = some b

/-- A successful scan of names that starts and ends with some paths found. A name that stands for
nothing or for a path found before is passed over; any other path is found and scanned in turn. -/
inductive Walk (fs : FileSystem Id) (search : Search) :
    List String → List String → List String → Prop where
  | nil (found : List String) : Walk fs search [] found found
  | skip {name : String} {names found found' : List String}
      (known : ∀ path, target? fs search name = some path → path ∈ found)
      (tail : Walk fs search names found found') : Walk fs search (name :: names) found found'
  | enter {name path : String} {names found mid found' : List String}
      (leads : target? fs search name = some path) (fresh : path ∉ found)
      (below : Walk fs search (namesOf fs path) (found ++ [path]) mid)
      (tail : Walk fs search names mid found') : Walk fs search (name :: names) found found'

theorem has_of_present {b : Bool}
    (h : ((Script.present (.ofString file)).run fs).ending = .done b) : has fs file = b := by
  rw [Script.present, Script.ending_call] at h
  unfold has
  split at h
  · next answer ha =>
    rw [ha]
    cases h
    rfl
  · cases h

theorem resolve_done {directories : List String} {r : Option String}
    (h : ((resolve name directories).run fs).ending = .done r) :
    (directories.map (candidate · name)).find? (has fs) = r := by
  induction directories with
  | nil =>
    cases h
    rfl
  | cons directory rest ih =>
    obtain ⟨b, hb, h⟩ := Script.bind_ending_done.mp h
    have hhas := has_of_present hb
    cases b with
    | true =>
      cases h
      simp [hhas]
    | false =>
      simp only [List.map_cons, List.find?_cons, hhas]
      exact ih h

theorem namesIn_done (h : ((namesIn file).run fs).ending = .done names) :
    namesOf fs file = names := by
  obtain ⟨contents, hc, h⟩ := Script.bind_ending_done.mp h
  obtain ⟨b, hb, h⟩ := Script.bind_ending_done.mp h
  rw [Script.read, Script.ending_call] at hc
  unfold namesOf
  split at hc
  · next answer ha =>
    cases hc
    rw [ha]
    cases contents with
    | error cause => cases hb
    | ok b' =>
      cases hb
      cases h
      rfl
  · cases hc

/-- A scan that succeeds is a walk over the names in its file. -/
theorem visit_done (h : ((visit search depth file found).run fs).ending = .done found') :
    Walk fs search (namesOf fs file) found found' := by
  induction depth generalizing file found found' with
  | zero => cases h
  | succ depth ih =>
    obtain ⟨names, hn, hloop⟩ := Script.bind_ending_done.mp h
    rw [namesIn_done hn]
    clear h hn
    induction names generalizing found with
    | nil =>
      cases hloop
      exact .nil _
    | cons name names ihn =>
      rw [List.foldlM_cons] at hloop
      obtain ⟨mid, hm, hrest⟩ := Script.bind_ending_done.mp hloop
      obtain ⟨r, hr, hm⟩ := Script.bind_ending_done.mp hm
      have hr : target? fs search name = r := resolve_done hr
      cases r with
      | none =>
        cases hm
        exact .skip (by simp [hr]) (ihn hrest)
      | some path =>
        by_cases hp : path ∈ found
        · simp only [hp, if_true] at hm
          cases hm
          exact .skip (by simp [hr, hp]) (ihn hrest)
        · simp only [hp, if_false] at hm
          exact .enter hr hp (ih hm) (ihn hrest)

end Scan

end IncludeRules
