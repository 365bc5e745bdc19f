import IncludeRules.Proofs.Scan.Footprint
import IncludeRules.Proofs.Scan.Underway

/-! How scans end: what they have read by then, and what they were stopped by. -/

namespace IncludeRules

/-- The path that is asked for the contents of a file. -/
def Event.read? : Event → Option Path
  | .asked (.read path) _ => some path
  | .asked (.readText _) _ | .asked (.write _ _) _ | .asked (.present _) _
  | .asked (.isDirectory _) _ | .asked (.entries _) _ | .told _ => none

namespace Scan

open Script

variable {fs : FileSystem Id} {search : Search} {file name path : String} {depth : Nat}
  {names opened found mid new : List String} {events : List Event} {r : Course (List String)}

def Readable (fs : FileSystem Id) (path : String) : Prop :=
  ∃ contents, fs.answer (.read (.ofString path)) = .ok (.ok contents)

def Refuses (fs : FileSystem Id) (path cause : String) : Prop :=
  fs.answer (.read (.ofString path)) = .ok (.error cause)

/-- Paths that were read one after the other. -/
def Reads (events : List Event) (paths : List String) : Prop :=
  events.filterMap Event.read? = paths.map .ofString

/-- What is known of a scan of names by how it ends. It has read the paths in `opened` first, and
then each path that it found. Only the last one may have been refused. Where it was given up, a
chain of paths as long as includes may nest leads there. -/
inductive Scanned (fs : FileSystem Id) (search : Search) (depth : Nat)
    (opened names found : List String) : Course (List String) → Prop
  | done {events : List Event} (new : List String) (reads : Reads events (opened ++ new))
    (readable : ∀ p ∈ opened ++ new, Readable fs p) :
    Scanned fs search depth opened names found ⟨events, .done (found ++ new)⟩
  | refused {events : List Event} {path cause : String} (new earlier : List String)
    (reads : Reads events (opened ++ new)) (last : opened ++ new = earlier ++ [path])
    (underway : Underway fs search names found (found ++ new))
    (readable : ∀ p ∈ earlier, Readable fs p) (refused : Refuses fs path cause) :
    Scanned fs search depth opened names found ⟨events, .failed (.unreadable path cause)⟩
  | nested {events : List Event} {file : String} (chain : List String)
    (length : chain.length = depth) (nodup : chain.Nodup)
    (leads : ∀ p ∈ chain, WhitePath fs search found names p) :
    Scanned fs search depth opened names found ⟨events, .failed (.nestedTooDeep file)⟩
  | crashed {events : List Event} {crash : Crash} :
    Scanned fs search depth opened names found ⟨events, .crashed crash⟩

theorem Reads.append {more : List Event} {paths later : List String} (h : Reads events paths)
    (h' : Reads more later) : Reads (events ++ more) (paths ++ later) := by
  rw [Reads, List.filterMap_append, List.map_append, h, h']

/-- Looking for a name reads nothing, and does not fail. -/
theorem resolve_course (fs : FileSystem Id) (name : String) (directories : List String) :
    let r : Course (Option String) := (resolve name directories).course fs
    Reads r.events [] ∧ ∀ e, r.ending ≠ .failed e := by
  induction directories with
  | nil =>
    refine ⟨rfl, fun e h => ?_⟩
    cases h
  | cons directory rest ih =>
    rw [resolve, Script.present, call_bind, course_call_id]
    rcases fs.answer (.present (.ofString (candidate directory name))) with crash | answer
    · refine ⟨rfl, fun e h => ?_⟩
      cases h
    · cases answer with
      | true =>
        refine ⟨rfl, fun e h => ?_⟩
        cases h
      | false => exact ih

/-- A file is opened, refused, or the call is not answered. -/
theorem namesIn_course (fs : FileSystem Id) (file : String) : ∃ events,
    (Readable fs file ∧ Reads events [file] ∧
      (namesIn file).course fs = (⟨events, .done (namesOf fs file)⟩ : Course _)) ∨
    (∃ cause, Refuses fs file cause ∧ Reads events [file] ∧
      (namesIn file).course fs = (⟨events, .failed (.unreadable file cause)⟩ : Course _)) ∨
    ∃ crash, (namesIn file).course fs = (⟨events, .crashed crash⟩ : Course _) := by
  rw [namesIn, Script.read, call_bind, course_call_id]
  rcases h : fs.answer (.read (.ofString file)) with crash | answer
  · exact ⟨[], Or.inr (Or.inr ⟨crash, rfl⟩)⟩
  · cases answer with
    | ok contents =>
      refine ⟨[.asked (.read (.ofString file)) (Except.ok contents)],
        Or.inl ⟨⟨contents, h⟩, rfl, ?_⟩⟩
      rw [namesOf, h]
      rfl
    | error cause =>
      exact ⟨[.asked (.read (.ofString file)) (Except.error cause)],
        Or.inr (Or.inl ⟨cause, h, rfl, rfl⟩)⟩

/-- The names of a file are scanned once it has been opened. -/
theorem Scanned.open (h : Scanned fs search depth [] names found r) (hreads : Reads events [file])
    (hfile : Readable fs file) : Scanned fs search depth [file] names found (r.after events) := by
  cases h with
  | done new reads readable =>
    exact .done new (hreads.append reads) (List.forall_mem_cons.mpr ⟨hfile, readable⟩)
  | refused new earlier reads last underway readable refused =>
    exact .refused new (file :: earlier) (hreads.append reads) (congrArg (file :: ·) last) underway
      (List.forall_mem_cons.mpr ⟨hfile, readable⟩) refused
  | nested chain length nodup leads => exact .nested chain length nodup leads
  | crashed => exact .crashed

/-- A path that was not found before is found with its name, and scanned in turn. -/
theorem Scanned.enter (h : Scanned fs search depth [path] (namesOf fs path) (found ++ [path]) r)
    (leads : target? fs search name = some path) (fresh : path ∉ found) :
    Scanned fs search (depth + 1) [] [name] found r := by
  cases h with
  | done new reads readable =>
    rw [List.append_assoc]
    exact .done ([path] ++ new) reads readable
  | refused new earlier reads last underway readable refused =>
    rw [List.append_assoc] at underway
    exact .refused ([path] ++ new) earlier reads last (.inside leads fresh underway) readable
      refused
  | nested chain length nodup below =>
    refine .nested (path :: chain) (by rw [List.length_cons, length]) ?_ ?_
    · refine List.nodup_cons.mpr ⟨fun hmem => ?_, nodup⟩
      exact whitePath_fresh (below path hmem) (by simp)
    · refine List.forall_mem_cons.mpr ⟨.start List.mem_cons_self leads fresh, fun p hp => ?_⟩
      exact whitePath_enter leads fresh (below p hp)
  | crashed => exact .crashed

/-- The other names are scanned when the first one is done. -/
theorem Scanned.after (h : Scanned fs search depth [] names mid r)
    (hwalk : Walk fs search [name] found mid) (hmid : mid = found ++ new)
    (hreads : Reads events new) (hnew : ∀ p ∈ new, Readable fs p) :
    Scanned fs search depth [] (name :: names) found (r.after events) := by
  subst hmid
  cases h with
  | done later reads readable =>
    have hreadable : ∀ p ∈ new ++ later, Readable fs p :=
      List.forall_mem_append.mpr ⟨hnew, readable⟩
    rw [List.append_assoc]
    exact .done (new ++ later) (hreads.append reads) hreadable
  | @refused _ path _ later earlier reads last underway readable refused =>
    rw [List.append_assoc] at underway
    have hlast : new ++ later = new ++ earlier ++ [path] := by
      rw [List.append_assoc]
      exact congrArg (new ++ ·) last
    exact .refused (new ++ later) (new ++ earlier) (hreads.append reads) hlast
      (underway_after hwalk underway) (List.forall_mem_append.mpr ⟨hnew, readable⟩) refused
  | nested chain length nodup leads =>
    refine .nested chain length nodup fun p hp => whitePath_cons ?_
    exact whitePath_mono (List.subset_append_left _ _) (leads p hp)
  | crashed => exact .crashed

/-- A scan that fails at one name fails whatever names come later. -/
theorem Scanned.fails {e : Failure}
    (h : Scanned fs search depth [] [name] found ⟨events, .failed e⟩) (later : List String) :
    Scanned fs search depth [] (name :: later) found ⟨events, .failed e⟩ := by
  cases h with
  | refused new earlier reads last underway readable refused =>
    exact .refused new earlier reads last (underway_append underway later) readable refused
  | nested chain length nodup leads =>
    refine .nested chain length nodup fun p hp => whitePath_names_mono ?_ (leads p hp)
    exact List.cons_subset_cons name (List.nil_subset _)

/-- What happens before a scan makes no difference when nothing is read by it. -/
theorem Scanned.preceded (h : Scanned fs search depth opened names found r)
    (hreads : Reads events []) : Scanned fs search depth opened names found (r.after events) := by
  cases h with
  | done new reads readable => exact .done new (hreads.append reads) readable
  | refused new earlier reads last underway readable refused =>
    exact .refused new earlier (hreads.append reads) last underway readable refused
  | nested chain length nodup leads => exact .nested chain length nodup leads
  | crashed => exact .crashed

theorem scanned_return (hreads : Reads events []) :
    Scanned fs search depth [] names found ⟨events, .done found⟩ := by
  have hdone : Scanned fs search depth [] names found ⟨events, .done (found ++ [])⟩ :=
    .done [] hreads fun _ hp => nomatch hp
  rwa [List.append_nil] at hdone

/-- One name is looked for, and what it leads to is scanned if it is new. -/
theorem scanName_scanned
    (ih : ∀ path found, Scanned fs search depth [path] (namesOf fs path) found
      ((visit search depth path found).course fs)) (found : List String) (name : String) :
    Scanned fs search (depth + 1) [] [name] found
      ((scanName search depth found name).course fs) := by
  obtain ⟨hreads, hfails⟩ := resolve_course fs (search.renamed name) search.directories
  obtain ⟨events, ending, hresolve⟩ : ∃ events ending,
      (resolve (search.renamed name) search.directories).course fs =
        (⟨events, ending⟩ : Course (Option String)) := ⟨_, _, rfl⟩
  rw [hresolve] at hreads hfails
  cases ending with
  | failed e => exact absurd rfl (hfails e)
  | crashed crash =>
    rw [scanName, course_bind_of_crashed hresolve]
    exact .crashed
  | done target =>
    have htarget : target? fs search name = target :=
      resolve_done ((ending_course _).trans (congrArg Course.ending hresolve))
    rw [scanName, course_bind_of_done hresolve]
    apply Scanned.preceded _ hreads
    cases target with
    | none => exact scanned_return rfl
    | some path =>
      by_cases hpath : path ∈ found
      · simp only [hpath, if_true]
        exact scanned_return rfl
      · simp only [hpath, if_false]
        exact (ih path (found ++ [path])).enter htarget hpath

/-- A name that is scanned to the end makes a step of a walk. -/
theorem scanName_walk
    (h : ((scanName search depth found name).course fs).ending = .done mid) :
    Walk fs search [name] found mid := by
  obtain ⟨target, hresolve, h, -⟩ := calls_bind_done h
  have htarget : target? fs search name = target := resolve_done ((ending_course _).trans hresolve)
  cases target with
  | none =>
    cases h
    exact .skip (by simp [htarget]) (.nil found)
  | some path =>
    by_cases hpath : path ∈ found
    · simp only [hpath, if_true] at h
      cases h
      exact .skip (by simp [htarget, hpath]) (.nil found)
    · simp only [hpath, if_false] at h
      exact .enter htarget hpath (visit_done ((ending_course _).trans h)) (.nil mid)

theorem scanNames_scanned
    (ih : ∀ path found, Scanned fs search depth [path] (namesOf fs path) found
      ((visit search depth path found).course fs)) (names found : List String) :
    Scanned fs search (depth + 1) [] names found
      ((names.foldlM (scanName search depth) found).course fs) := by
  induction names generalizing found with
  | nil => exact scanned_return rfl
  | cons name names ihn =>
    rw [List.foldlM_cons]
    have hname := scanName_scanned ih found name
    obtain ⟨events, ending, hcourse⟩ : ∃ events ending,
        (scanName search depth found name).course fs =
          (⟨events, ending⟩ : Course (List String)) := ⟨_, _, rfl⟩
    rw [hcourse] at hname
    cases ending with
    | failed e =>
      rw [course_bind_of_failed hcourse]
      exact hname.fails names
    | crashed crash =>
      rw [course_bind_of_crashed hcourse]
      exact .crashed
    | done mid =>
      rw [course_bind_of_done hcourse]
      have hwalk := scanName_walk (congrArg Course.ending hcourse)
      cases hname with
      | done new reads readable => exact (ihn _).after hwalk rfl reads readable

/-- How the scan of a file ends, whatever files there are and however deep includes may nest. -/
theorem visit_scanned (fs : FileSystem Id) (search : Search) (depth : Nat) (file : String)
    (found : List String) : Scanned fs search depth [file] (namesOf fs file) found
      ((visit search depth file found).course fs) := by
  induction depth generalizing file found with
  | zero => exact .nested [] rfl .nil fun _ hp => nomatch hp
  | succ depth ih =>
    rw [visit_succ]
    obtain ⟨events, ⟨hfile, hreads, hcourse⟩ | ⟨cause, hcause, hreads, hcourse⟩ |
      ⟨crash, hcourse⟩⟩ := namesIn_course fs file
    · rw [course_bind_of_done hcourse]
      exact (scanNames_scanned ih _ found).open hreads hfile
    · rw [course_bind_of_failed hcourse]
      have hstop : Underway fs search (namesOf fs file) found (found ++ []) := by
        rw [List.append_nil]
        exact .stop _ _
      exact .refused [] [] hreads rfl hstop (fun _ hp => nomatch hp) hcause
    · rw [course_bind_of_crashed hcourse]
      exact .crashed

end Scan

end IncludeRules
