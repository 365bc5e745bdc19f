import IncludeRules.Proofs.Scan.Looks
import IncludeRules.Proofs.Store.Frozen

/-! What a scan depends on: the files that it lists, and where their names are looked for. -/

namespace IncludeRules.Scan

open Script

variable {fs gs : FileSystem Id} {search : Search} {file name : String}
  {names files files' found found' : List String} {depth : Nat}

/-- The calls that files account for: each of them is read, and the names in it are looked for in
all directories. -/
inductive Footprint (fs : FileSystem Id) (search : Search) (files : List String) : Call → Prop where
  | read {file : String} (listed : file ∈ files) :
    Footprint fs search files (.read (.ofString file))
  | present {file name directory : String} (listed : file ∈ files) (mem : name ∈ namesOf fs file)
    (dir : directory ∈ search.directories) :
    Footprint fs search files (.present (.ofString (candidate directory (search.renamed name))))

theorem footprint_mono {c : Call} (hsub : files ⊆ files') (h : Footprint fs search files c) :
    Footprint fs search files' c := by
  cases h with
  | read listed => exact .read (hsub listed)
  | present listed mem dir => exact .present (hsub listed) mem dir

/-- A call that is answered is made. -/
theorem calls_call_done {c : Call} {b : c.Answer}
    (h : ((call c .done : Script c.Answer).course fs).ending = .done b) :
    ((call c .done : Script c.Answer).course fs).calls = [c] := by
  rw [course_call_id] at h ⊢
  rcases ha : fs.answer c with crash | answer
  · rw [ha] at h
    cases h
  · rfl

theorem resolve_calls {directories : List String} {r : Option String}
    (h : ((resolve name directories).course fs).ending = .done r) :
    ∀ c ∈ ((resolve name directories).course fs).calls,
      ∃ directory ∈ directories, c = .present (.ofString (candidate directory name)) := by
  induction directories with
  | nil => exact fun _ hc => nomatch hc
  | cons directory rest ih =>
    obtain ⟨b, hb, h, hcalls⟩ := calls_bind_done h
    intro c hc
    rw [resolve, hcalls, List.mem_append] at hc
    rcases hc with hc | hc
    · rw [Script.present, calls_call_done hb] at hc
      exact ⟨directory, List.mem_cons_self, List.mem_singleton.mp hc⟩
    · cases b with
      | true => cases hc
      | false =>
        obtain ⟨d, hd, hc⟩ := ih h c hc
        exact ⟨d, List.mem_cons_of_mem _ hd, hc⟩

theorem namesIn_calls (h : ((namesIn file).course fs).ending = .done names) :
    ((namesIn file).course fs).calls = [.read (.ofString file)] := by
  obtain ⟨contents, hc, h, hcalls⟩ := calls_bind_done h
  rw [namesIn, hcalls, Script.read, calls_call_done hc]
  cases contents with
  | error cause => cases h
  | ok contents => rfl

/-- What a scan does with one name. -/
def scanName (search : Search) (depth : Nat) (found : List String) (name : String) :
    Script (List String) := do
  match ← resolve (search.renamed name) search.directories with
  | none => return found
  | some path =>
    if path ∈ found then return found else visit search depth path (found ++ [path])

theorem visit_succ (search : Search) (depth : Nat) (file : String) (found : List String) :
    visit search (depth + 1) file found =
      namesIn file >>= fun names => names.foldlM (scanName search depth) found := rfl

/-- What an addition to the found paths asks for when it succeeds belongs to `file` or to one of the
paths found in the end. -/
structure Accounted (fs : FileSystem Id) (search : Search) (file : String) (found : List String)
    (script : Script (List String)) : Prop where
  extends_found : ∀ {found'}, (script.course fs).ending = .done found' → found ⊆ found'
  calls : ∀ {found'}, (script.course fs).ending = .done found' →
    ∀ c ∈ (script.course fs).calls, Footprint fs search (file :: found') c

theorem accounted_pure : Accounted fs search file found (pure found) where
  extends_found h := by
    cases h
    exact List.Subset.refl _
  calls _ _ hc := nomatch hc

/-- A path that is found belongs to the paths found in the end, and so does what it asks for. -/
theorem accounted_enter {path : String} {script : Script (List String)}
    (h : Accounted fs search path (found ++ [path]) script) :
    Accounted fs search file found script where
  extends_found hdone := List.Subset.trans (List.subset_append_left found [path]) (h.extends_found hdone)
  calls hdone c hc := by
    have hpath := h.extends_found hdone (List.mem_append_right found List.mem_cons_self)
    refine footprint_mono (List.cons_subset.mpr ⟨List.mem_cons_of_mem _ hpath, ?_⟩)
      (h.calls hdone c hc)
    exact List.subset_cons_self _ _

theorem accounted_bind {α : Type} {first : Script α} {next : α → Script (List String)}
    (hfirst : ∀ a, (first.course fs).ending = .done a →
      ∀ c ∈ (first.course fs).calls, Footprint fs search [file] c)
    (hnext : ∀ a, (first.course fs).ending = .done a → Accounted fs search file found (next a)) :
    Accounted fs search file found (first >>= next) where
  extends_found hdone := by
    obtain ⟨a, ha, hdone, _⟩ := calls_bind_done hdone
    exact (hnext a ha).extends_found hdone
  calls hdone c hc := by
    obtain ⟨a, ha, hdone, hcalls⟩ := calls_bind_done hdone
    rw [hcalls] at hc
    rcases List.mem_append.mp hc with hc | hc
    · exact footprint_mono (by simp) (hfirst a ha c hc)
    · exact (hnext a ha).calls hdone c hc

/-- Later additions keep what was found, so what earlier ones asked for stays accounted for. -/
theorem accounted_then {first : Script (List String)} {next : List String → Script (List String)}
    (hfirst : Accounted fs search file found first)
    (hnext : ∀ mid, Accounted fs search file mid (next mid)) :
    Accounted fs search file found (first >>= next) where
  extends_found hdone := by
    obtain ⟨mid, hmid, hdone, _⟩ := calls_bind_done hdone
    exact List.Subset.trans (hfirst.extends_found hmid) ((hnext mid).extends_found hdone)
  calls hdone c hc := by
    obtain ⟨mid, hmid, hdone, hcalls⟩ := calls_bind_done hdone
    rw [hcalls] at hc
    rcases List.mem_append.mp hc with hc | hc
    · exact footprint_mono (List.cons_subset_cons file ((hnext mid).extends_found hdone))
        (hfirst.calls hmid c hc)
    · exact (hnext mid).calls hdone c hc

theorem accounted_foldlM {add : List String → String → Script (List String)}
    (h : ∀ found, ∀ name ∈ names, Accounted fs search file found (add found name)) :
    Accounted fs search file found (names.foldlM add found) := by
  induction names generalizing found with
  | nil => exact accounted_pure
  | cons name names ih =>
    rw [List.foldlM_cons]
    refine accounted_then (h found name List.mem_cons_self) fun mid => ih fun found name hname => ?_
    exact h found name (List.mem_cons_of_mem _ hname)

theorem scanName_accounted (hname : name ∈ namesOf fs file)
    (ih : ∀ path found, Accounted fs search path found (visit search depth path found)) :
    Accounted fs search file found (scanName search depth found name) := by
  refine accounted_bind (fun r hr c hc => ?_) fun r _ => ?_
  · obtain ⟨directory, hdir, rfl⟩ := resolve_calls hr c hc
    exact .present List.mem_cons_self hname hdir
  · cases r with
    | none => exact accounted_pure
    | some path =>
      by_cases hp : path ∈ found
      · simp only [hp, if_true]
        exact accounted_pure
      · simp only [hp, if_false]
        exact accounted_enter (ih path _)

theorem visit_accounted (search : Search) (depth : Nat) (file : String) (found : List String) :
    Accounted fs search file found (visit search depth file found) := by
  induction depth generalizing file found with
  | zero => exact ⟨(fun h => nomatch h), (fun h => nomatch h)⟩
  | succ depth ih =>
    rw [visit_succ]
    refine accounted_bind (fun names hn c hc => ?_) fun names hn => ?_
    · rw [namesIn_calls hn] at hc
      cases List.mem_singleton.mp hc
      exact .read List.mem_cons_self
    · rw [← namesIn_done ((ending_course _).trans hn)]
      exact accounted_foldlM fun found name hname => scanName_accounted hname ih

/-- File systems that agree on the footprint of a successful scan take the same course in it. -/
theorem headersOf_course_congr (h : ((headersOf search file).run fs).ending = .done found)
    (hsame : ∀ c, Footprint fs search (file :: found) c → gs.answer c = fs.answer c) :
    (headersOf search file).course gs = (headersOf search file).course fs := by
  rw [ending_course] at h
  refine course_congr (fun c hc => hsame c ((visit_accounted ..).calls h c hc)) fun crash => ?_
  rw [h]
  exact fun h => nomatch h

theorem ruleOf_course_congr {scanner : Scanner}
    (h : ((headersOf scanner.search file).run fs).ending = .done found)
    (hsame : ∀ c, Footprint fs scanner.search (file :: found) c → gs.answer c = fs.answer c) :
    (ruleOf scanner file).course gs = (ruleOf scanner file).course fs := by
  rw [ruleOf, course_bind, course_bind, headersOf_course_congr h hsame]
  rfl

theorem frozen_footprint_congr {s t : Store} {c : Call}
    (hwhere : ∀ l, l ∈ t.locations ↔ l ∈ s.locations)
    (hlisted : ∀ p ∈ files, t.octets? (.ofString p) = s.octets? (.ofString p))
    (h : Footprint fs search files c) : (frozen t).answer c = (frozen s).answer c := by
  cases h with
  | read listed => exact Store.frozen_read_congr (hlisted _ listed)
  | present => exact Store.frozen_present_congr hwhere _

/-- The listed files decide on a scan. First for any two file systems: if the first one finds
some headers, and the second one has the same contents in the file and in these headers and the same
candidates for the names in them, it finds the same headers in the same order. Then for stores with
files in the same places: whatever the other files hold, the rule of the file is the same. -/
theorem rule_determined_by_listed_files (scanner : Scanner) (file : String) (found : List String) :
    (∀ fs gs : FileSystem Id, ((headersOf scanner.search file).run fs).ending = .done found →
      (∀ p ∈ file :: found, gs.answer (.read (.ofString p)) = fs.answer (.read (.ofString p))) →
      (∀ p ∈ file :: found, ∀ name ∈ namesOf fs p, ∀ directory ∈ scanner.search.directories,
        let path := Path.ofString (candidate directory (scanner.search.renamed name))
        gs.answer (.present path) = fs.answer (.present path)) →
      ((headersOf scanner.search file).run gs).ending = .done found) ∧
    (∀ s t : Store,
      ((headersOf scanner.search file).run Store.fileSystem s).1.ending = .done found →
      (∀ l, l ∈ t.locations ↔ l ∈ s.locations) →
      (∀ p ∈ file :: found, t.octets? (.ofString p) = s.octets? (.ofString p)) →
      ((ruleOf scanner file).run Store.fileSystem t).1 =
        ((ruleOf scanner file).run Store.fileSystem s).1) := by
  constructor
  · intro fs gs h hread hpresent
    have hsame : ∀ c, Footprint fs scanner.search (file :: found) c →
        gs.answer c = fs.answer c := by
      intro c hc
      cases hc with
      | read listed => exact hread _ listed
      | present listed mem dir => exact hpresent _ listed _ mem _ dir
    rw [ending_course, headersOf_course_congr h hsame, ← ending_course]
    exact h
  · intro s t h hwhere hlisted
    have hlooks : (headersOf scanner.search file).Looks := visit_looks ..
    rw [Store.run_frozen hlooks] at h
    rw [Store.run_frozen (ruleOf_looks scanner file), Store.run_frozen (ruleOf_looks scanner file),
      run_eq_course, run_eq_course,
      ruleOf_course_congr h fun c => frozen_footprint_congr hwhere hlisted]

/-- A store with one more file, of which no listed file knows. -/
def circleAndMore : Store :=
  circle.insert (.ofString "inc/c.h") (.ofString "#include \"a.h\"\n")

def circleScanner : Scanner where
  search := circleSearch
  startDirectory := "inc/"
  objectSuffix := ".o"

/-- A file that is not listed is added, and then written once more. -/
theorem rule_of_circle_determined :
    let found := ["inc/a.h", "inc/b.h", "main.c"]
    let more := circleAndMore.write (.ofString "./inc/c.h") (.ofString "#include \"b.h\"\n")
    ((headersOf circleSearch "main.c").run (frozen circle)).ending = .done found ∧
    ((headersOf circleSearch "main.c").run (frozen circleAndMore)).ending = .done found ∧
    ((ruleOf circleScanner "main.c").run Store.fileSystem more).1 =
      ((ruleOf circleScanner "main.c").run Store.fileSystem circleAndMore).1 := by
  intro found more
  have h := rule_determined_by_listed_files circleScanner "main.c" found
  have hfound : ((headersOf circleSearch "main.c").run (frozen circle)).ending = .done found :=
    Ending.eq_done (by decide +kernel)
  have hlisted : ∀ p ∈ "main.c" :: found,
      circleAndMore.octets? (.ofString p) = circle.octets? (.ofString p) := by
    decide +kernel
  have hcandidates : ∀ p ∈ "main.c" :: found, ∀ name ∈ namesOf (frozen circle) p,
      ∀ directory ∈ circleSearch.directories,
      let path := Path.ofString (candidate directory (circleSearch.renamed name))
      circleAndMore.present path = circle.present path := by
    decide +kernel
  refine ⟨hfound, ?_, ?_⟩
  · refine h.1 (frozen circle) (frozen circleAndMore) hfound
      (fun p hp => Store.frozen_read_congr (hlisted p hp)) fun p hp name hname directory hdir => ?_
    exact congrArg Except.ok (hcandidates p hp name hname directory hdir)
  · refine h.2 circleAndMore more (Ending.eq_done (by decide +kernel)) (fun l => ?_)
      (by decide +kernel)
    have hwhere : more.locations = circleAndMore.locations := by decide +kernel
    rw [hwhere]

end IncludeRules.Scan
