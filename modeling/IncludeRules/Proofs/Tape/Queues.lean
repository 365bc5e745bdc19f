import IncludeRules.Tape.Replaying
import Mathlib.Data.List.Forall2
import Mathlib.Data.List.Zip

/-! Replays as queues, one for each method. -/

namespace IncludeRules

/-- The path that an interaction was recorded for, if it names one. -/
def Interaction.path? (i : Interaction) : Option String :=
  (i.input.get? "path").bind Json.text?

/-- An interaction can stand for a call on a path. -/
def Interaction.Fits (i : Interaction) (path : Path) : Prop :=
  ∀ recorded, i.path? = some recorded → recorded = path.display

/-- The interactions of a method on a tape, in order. -/
def Tape.recorded (t : Tape) (method : String) : List Interaction :=
  t.interactions.filter fun i => i.port = filePort ∧ i.method = method

/-- A call as a replay sees it. -/
structure Request where
  method : String
  path : Path

/-- The paths that the calls of a method ask for, in order. -/
def Request.pathsOf (method : String) (asked : List Request) : List Path :=
  (asked.filter fun q => q.method = method).map (·.path)

namespace Replay

open Request (pathsOf)

variable {method other : String} {path : Path} {r : Replay} {pending left : List Interaction}
  {i : Interaction}

/-- What is left for a method. -/
def queue (r : Replay) (method : String) : List Interaction :=
  r.pending.filter fun i => i.method = method

/-- What a call comes to when it is an interaction's turn, or when there is none left. -/
def serve (tape method : String) (path : Path) : Option Interaction → Except Crash Json
  | none => .error (.exhausted tape method path.display)
  | some i =>
    match i.path? with
    | none => .ok i.output
    | some recorded =>
      if recorded = path.display then .ok i.output
      else .error (.diverged tape i.seq method recorded path.display)

/-- What calls come to that are made one after the other, also after one that crashed. -/
def results (r : Replay) : List Request → List (Except Crash Json)
  | [] => []
  | q :: later => (r.take q.method q.path).1 :: (r.take q.method q.path).2.results later

/-- What the calls of one method come to, each beside the path that it asks for. -/
def resultsOf (r : Replay) (method : String) (asked : List Request) :
    List (Path × Except Crash Json) :=
  ((asked.zip (r.results asked)).filter fun x => x.1.method = method).map fun x => (x.1.path, x.2)

theorem next?_eq_none (h : next? method pending = none) :
    (pending.filter fun i => i.method = method) = [] := by
  induction pending with
  | nil => rfl
  | cons i rest ih =>
    rw [next?] at h
    split at h
    · cases h
    · next hi =>
      rw [List.filter_cons_of_neg (by simpa using hi)]
      exact ih (Option.map_eq_none_iff.mp h)

/-- The first of a method's interactions is taken out, and nothing else. -/
theorem next?_eq_some (h : next? method pending = some (i, left)) :
    (pending.filter fun i => i.method = method) = i :: left.filter (fun i => i.method = method) ∧
      ∀ other, other ≠ method →
        (left.filter fun i => i.method = other) = pending.filter fun i => i.method = other := by
  induction pending generalizing left with
  | nil => cases h
  | cons first rest ih =>
    rw [next?] at h
    split at h
    · next hfirst =>
      cases h
      refine ⟨List.filter_cons_of_pos (by simpa using hfirst), fun other hother => ?_⟩
      rw [List.filter_cons_of_neg (by simpa [hfirst] using hother.symm)]
    · next hfirst =>
      obtain ⟨⟨found, left⟩, hnext, heq⟩ := Option.map_eq_some_iff.mp h
      cases heq
      obtain ⟨hself, hothers⟩ := ih hnext
      constructor
      · rw [List.filter_cons_of_neg (by simpa using hfirst),
          List.filter_cons_of_neg (by simpa using hfirst), hself]
      · intro other hother
        rw [List.filter_cons, List.filter_cons, hothers other hother]

/-- A call is served from the queue of its method, whose first interaction it uses up whatever it
comes to. The other queues stay. -/
theorem take_spec (r : Replay) (method : String) (path : Path) :
    (r.take method path).1 = serve r.tape method path (r.queue method).head? ∧
      (r.take method path).2.tape = r.tape ∧
      (r.take method path).2.queue method = (r.queue method).tail ∧
      ∀ other, other ≠ method → (r.take method path).2.queue other = r.queue other := by
  cases h : next? method r.pending with
  | none =>
    have hqueue : r.queue method = [] := next?_eq_none h
    simp [take, h, hqueue, serve]
  | some found =>
    obtain ⟨i, left⟩ := found
    obtain ⟨hself, hothers⟩ := next?_eq_some h
    have hqueue : r.queue method = i :: (Replay.mk r.tape left).queue method := hself
    have htake : r.take method path = (serve r.tape method path (some i), ⟨r.tape, left⟩) := by
      rw [take, h, serve, Interaction.path?]
      dsimp only
      rcases (i.input.get? "path").bind Json.text? with _ | recorded
      · rfl
      · dsimp only
        split <;> rfl
    rw [htake, hqueue]
    exact ⟨rfl, rfl, rfl, hothers⟩

theorem length_results (r : Replay) (asked : List Request) :
    (r.results asked).length = asked.length := by
  induction asked generalizing r with
  | nil => rfl
  | cons q later ih => exact congrArg (· + 1) (ih _)

/-- Of the calls of one method the one with `k` others before it is served from the interaction with
`k` others before it, if there is one. -/
theorem resultsOf_eq (r : Replay) (method : String) (asked : List Request) :
    r.resultsOf method asked = (pathsOf method asked).mapIdx fun k path =>
      (path, serve r.tape method path (r.queue method)[k]?) := by
  induction asked generalizing r with
  | nil => rfl
  | cons q later ih =>
    obtain ⟨hresult, htape, hself, hothers⟩ := take_spec r q.method q.path
    by_cases hq : q.method = method
    · subst hq
      have hlater := ih (r.take q.method q.path).2
      rw [htape, hself] at hlater
      have hhead : r.resultsOf q.method (q :: later) =
          (q.path, (r.take q.method q.path).1) ::
            (r.take q.method q.path).2.resultsOf q.method later := by
        simp [resultsOf, results]
      have hpaths : pathsOf q.method (q :: later) = q.path :: pathsOf q.method later := by
        simp [pathsOf]
      rw [hhead, hpaths, List.mapIdx_cons, hlater, hresult, List.head?_eq_getElem?]
      simp only [List.getElem?_tail]
    · have hlater := ih (r.take q.method q.path).2
      rw [htape, hothers method (Ne.symm hq)] at hlater
      have hhead : r.resultsOf method (q :: later) =
          (r.take q.method q.path).2.resultsOf method later := by
        simp [resultsOf, results, hq]
      have hpaths : pathsOf method (q :: later) = pathsOf method later := by
        simp [pathsOf, hq]
      rw [hhead, hpaths, hlater]

theorem serve_eq_ok_iff (tape method : String) (path : Path) (turn : Option Interaction) :
    (∃ output, serve tape method path turn = .ok output) ↔ ∃ i, turn = some i ∧ i.Fits path := by
  cases turn with
  | none => simp [serve]
  | some i =>
    rw [serve]
    cases hpath : i.path? with
    | none => simp [Interaction.Fits, hpath]
    | some recorded =>
      by_cases h : recorded = path.display
      · simp [Interaction.Fits, hpath, h]
      · simp [Interaction.Fits, hpath, h]

theorem queue_ofTape (t : Tape) (method : String) :
    (ofTape t).queue method = t.recorded method := by
  rw [queue, ofTape, List.filter_filter, Tape.recorded]
  congr 1
  funext i
  rw [Bool.and_comm, Bool.decide_and]
  rfl

theorem mem_results_iff {x : Except Crash Json} {asked : List Request} :
    x ∈ r.results asked ↔ ∃ method path, (path, x) ∈ r.resultsOf method asked := by
  constructor
  · intro hx
    rw [← List.map_snd_zip (Nat.le_of_eq (length_results r asked))] at hx
    obtain ⟨⟨q, y⟩, hmem, rfl⟩ := List.mem_map.mp hx
    exact ⟨q.method, q.path, List.mem_map.mpr
      ⟨(q, y), List.mem_filter.mpr ⟨hmem, decide_eq_true rfl⟩, rfl⟩⟩
  · rintro ⟨method, path, hx⟩
    obtain ⟨⟨q, y⟩, hmem, heq⟩ := List.mem_map.mp hx
    cases heq
    exact (List.of_mem_zip (List.mem_of_mem_filter hmem)).2

/-- No call crashes when each has a turn that fits. -/
theorem results_ok_iff (r : Replay) (asked : List Request) :
    (∀ x ∈ r.results asked, ∃ output, x = .ok output) ↔
      ∀ (method : String) (k : Nat) (path : Path), (pathsOf method asked)[k]? = some path →
        ∃ i, (r.queue method)[k]? = some i ∧ i.Fits path := by
  simp only [mem_results_iff, resultsOf_eq, List.mem_mapIdx]
  constructor
  · intro h method k path hk
    obtain ⟨hlt, hpath⟩ := List.getElem?_eq_some_iff.mp hk
    rw [← serve_eq_ok_iff r.tape method]
    exact h _ ⟨method, path, k, hlt, by rw [hpath]⟩
  · rintro h x ⟨method, path, k, hlt, hx⟩
    cases hx
    rw [serve_eq_ok_iff]
    exact h method k _ (List.getElem?_eq_getElem hlt)

theorem prefix_fits_iff {α β : Type} {R : α → β → Prop} {xs : List α} {ys : List β} :
    (∀ (k : Nat) (x : α), xs[k]? = some x → ∃ y, ys[k]? = some y ∧ R x y) ↔
      ∃ zs, zs <+: ys ∧ List.Forall₂ R xs zs := by
  induction xs generalizing ys with
  | nil => simp
  | cons x xs ih =>
    constructor
    · intro h
      obtain ⟨y, hy, hxy⟩ := h 0 x rfl
      cases ys with
      | nil => cases hy
      | cons y' ys =>
        cases hy
        obtain ⟨zs, hzs, hall⟩ := ih.mp fun k x hk => h (k + 1) x hk
        exact ⟨y :: zs, List.cons_prefix_cons.mpr ⟨rfl, hzs⟩, .cons hxy hall⟩
    · rintro ⟨zs, hzs, hall⟩ k w hk
      cases hall with
      | @cons _ z _ zs hxz hall =>
        cases ys with
        | nil => cases List.prefix_nil.mp hzs
        | cons y ys =>
          obtain ⟨rfl, hrest⟩ := List.cons_prefix_cons.mp hzs
          cases k with
          | zero =>
            cases hk
            exact ⟨z, rfl, hxz⟩
          | succ k => exact ih.mpr ⟨zs, hrest, hall⟩ k w hk

/-- A replay serves the methods of a tape independently of each other, and each interaction once.
Among the calls of one method the one with `k` others before it comes to what the interaction with
`k` others before it says, whatever calls of other methods come between and whether or not calls
before it crashed. Calls that are mixed in another way therefore come to the same. None of them
crashes exactly when each method is asked for a first part of what was recorded for it. -/
theorem results_by_method (t : Tape) (asked : List Request) :
    let r := ofTape t
    (r.results asked).length = asked.length ∧
    (∀ method, r.resultsOf method asked = (pathsOf method asked).mapIdx fun k path =>
      (path, serve t.name method path (t.recorded method)[k]?)) ∧
    (∀ mixed, (∀ method, pathsOf method mixed = pathsOf method asked) →
      ∀ method, r.resultsOf method mixed = r.resultsOf method asked) ∧
    ((∀ x ∈ r.results asked, ∃ output, x = .ok output) ↔
      ∀ method, ∃ served, served <+: t.recorded method ∧
        List.Forall₂ (fun path i => i.Fits path) (pathsOf method asked) served) := by
  intro r
  refine ⟨length_results r asked, fun method => ?_, fun mixed h method => ?_, ?_⟩
  · rw [resultsOf_eq, queue_ofTape]
    rfl
  · rw [resultsOf_eq, resultsOf_eq, h]
  · rw [results_ok_iff]
    simp only [r, queue_ofTape, prefix_fits_iff]

end Replay

end IncludeRules
