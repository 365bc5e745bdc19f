import IncludeRules.Command.Convert
import IncludeRules.Proofs.Store.Faulty
import IncludeRules.Tape.Recording
import IncludeRules.Tape.Replaying

/-! A run that is replayed from its own recording. -/

namespace IncludeRules

variable {σ α β : Type}

/-- What is recorded of events, numbered from `n` on. Notices are not recorded. -/
def Tape.transcript : Nat → List Event → List Interaction
  | _, [] => []
  | n, .asked c a :: rest =>
    ⟨n, filePort, c.method, inputOf c, outputOf c a⟩ :: transcript (n + 1) rest
  | n, .told _ :: rest => transcript n rest

theorem stateT_bind {τ : Type} (x : StateT τ (StateM σ) α) (k : α → StateT τ (StateM σ) β) (r : τ)
    (s : σ) : (x >>= k) r s = k (x r s).1.1 (x r s).1.2 (x r s).2 := rfl

theorem stateT_map {τ : Type} (g : α → β) (x : StateT τ (StateM σ) α) (r : τ) (s : σ) :
    (g <$> x) r s = ((g (x r s).1.1, (x r s).1.2), (x r s).2) := rfl

theorem recording_answer (fs : FileSystem (StateM σ)) (c : Call) (log : List Interaction) (s : σ) :
    fs.recording.answer c log s =
      match fs.answer c s with
      | (.ok a, t) => ((.ok a, Tape.recordCall log c a), t)
      | (.error crash, t) => ((.error crash, log), t) := by
  simp only [FileSystem.recording]
  rw [Script.stateM_bind]
  rcases fs.answer c s with ⟨crash | a, t⟩ <;> rfl

theorem recorded_nothing (r : Course α) (log : List Interaction) (s : σ) :
    ((r, log), s) = ((r, log ++ Tape.transcript log.length []), s) := by
  rw [Tape.transcript, List.append_nil]

/-- Recording changes nothing for the client, and records what happens. -/
theorem course_recording (fs : FileSystem (StateM σ)) (script : Script α) (log : List Interaction)
    (s : σ) :
    script.course fs.recording log s =
      (((script.course fs s).1,
        log ++ Tape.transcript log.length (script.course fs s).1.events),
        (script.course fs s).2) := by
  induction script generalizing log s with
  | done | fail => exact recorded_nothing _ log s
  | call c next ih =>
    rw [Script.course_call, Script.course, stateT_bind, recording_answer]
    rcases fs.answer c s with ⟨crash | answer, t⟩
    · exact recorded_nothing _ log t
    · dsimp only
      rw [stateT_map, ih]
      simp [Tape.recordCall, Tape.record, Tape.transcript, Course.after]
  | tell n next ih =>
    rw [Script.course_tell, Script.course, stateT_map, ih]
    simp [Tape.transcript, Course.after]

theorem run_recording (fs : FileSystem (StateM σ)) (script : Script α) (log : List Interaction)
    (s : σ) : (script.run fs.recording log s).1.1 = (script.course fs s).1.run := by
  rw [Script.run_eq_course, stateT_map, course_recording]

theorem get?_path_inputOf (c : Call) :
    ((Tape.inputOf c).get? "path").bind Json.text? = some c.path.display := by
  cases c <;> rfl

theorem listOf_map {γ : Type} (item : Json → Except Mismatch γ) (encode : γ → Json)
    (h : ∀ a, item (encode a) = .ok a) (l : List γ) :
    Replay.listOf item (.list (l.map encode)) = .ok l := by
  rw [Replay.listOf]
  induction l with
  | nil => rfl
  | cons a l ih =>
    rw [List.map_cons, List.mapM_cons, h, ih]
    rfl

theorem textOf_text (s : String) : Replay.textOf (.text s) = .ok s := rfl

theorem unitOf_null (a : Unit) : Replay.unitOf .null = .ok a := rfl

theorem octetOf_int (o : UInt8) : Replay.octetOf (.int o.toNat) = .ok o := by
  have h : (0 : Int) ≤ o.toNat ∧ (o.toNat : Int) < 256 := by
    have := o.toNat_lt
    omega
  simp [Replay.octetOf, h]

/-- An answer that may be refused is what its record stands for, given that of its value. -/
theorem answerOf_answerJson {γ : Type} (c : Call) (decode : Json → Except Mismatch γ)
    (encode : γ → Json) (h : ∀ a, decode (encode a) = .ok a) (a : Except String γ) :
    Replay.answerOf c decode (Tape.answerJson encode a) = a := by
  cases a with
  | ok a =>
    change (decode (encode a)).mapError _ = .ok a
    rw [h]
    rfl
  | error cause => rfl

theorem answer_outputOf (c : Call) (a : c.Answer) :
    Replay.answer c (Tape.outputOf c a) = .ok a := by
  cases c with
  | readText p => exact congrArg _ (answerOf_answerJson _ _ _ textOf_text a)
  | read p => exact congrArg _ (answerOf_answerJson _ _ _ (listOf_map _ _ octetOf_int) a)
  | write p text => exact congrArg _ (answerOf_answerJson _ _ _ unitOf_null a)
  | present p => rfl
  | isDirectory p => rfl
  | entries p => exact congrArg _ (answerOf_answerJson _ _ _ (listOf_map _ _ textOf_text) a)

/-- The first interaction left of a tape answers the call that it was recorded for. -/
theorem take_recorded (tape : String) (n : Nat) (c : Call) (a : c.Answer)
    (rest : List Interaction) :
    (Replay.mk tape (⟨n, filePort, c.method, Tape.inputOf c, Tape.outputOf c a⟩ :: rest)).take
      c.method c.path = (.ok (Tape.outputOf c a), ⟨tape, rest⟩) := by
  simp [Replay.take, Replay.next?, get?_path_inputOf]

theorem replaying_recorded (tape : String) (n : Nat) (c : Call) (a : c.Answer)
    (rest : List Interaction) :
    FileSystem.replaying.answer c
      ⟨tape, ⟨n, filePort, c.method, Tape.inputOf c, Tape.outputOf c a⟩ :: rest⟩ =
      (.ok a, ⟨tape, rest⟩) := by
  simp only [FileSystem.replaying, take_recorded, answer_outputOf]

theorem replaying_nothing (tape : String) (c : Call) :
    FileSystem.replaying.answer c ⟨tape, []⟩ =
      (.error (.exhausted tape c.method c.path.display), ⟨tape, []⟩) := rfl

/-- A client that is answered from the record of its own course takes the same course. When the
recorded file system gave up on a call, there is no record of it, and the replay ends there too. -/
theorem course_replaying (fs : FileSystem (StateM σ)) (script : Script α) (s : σ) (tape : String)
    (n : Nat) :
    let recorded := (script.course fs s).1
    let replayed :=
      (script.course .replaying ⟨tape, Tape.transcript n recorded.events⟩).1
    replayed.events = recorded.events ∧
      (replayed = recorded ∨ ∃ crash, recorded.ending = .crashed crash) := by
  induction script generalizing s n with
  | done | fail => exact ⟨rfl, Or.inl rfl⟩
  | call c next ih =>
    dsimp only
    rw [Script.course_call c next s]
    rcases fs.answer c s with ⟨crash | answer, t⟩
    · simp only [Tape.transcript, Script.course_call, replaying_nothing]
      exact ⟨trivial, Or.inr ⟨crash, rfl⟩⟩
    · obtain ⟨hevents, hcourse⟩ := ih answer t (n + 1)
      simp only [Course.after, List.singleton_append, Tape.transcript, Script.course_call,
        replaying_recorded]
      exact ⟨congrArg _ hevents, hcourse.imp_left (congrArg (Course.after [.asked c answer]))⟩
  | tell notice next ih =>
    obtain ⟨hevents, hcourse⟩ := ih s n
    simp only [Script.course_tell, Course.after, List.singleton_append, Tape.transcript]
    exact ⟨congrArg _ hevents, hcourse.imp_left (congrArg (Course.after [.told notice]))⟩

theorem port_of_mem_transcript {events : List Event} {n : Nat} {i : Interaction}
    (h : i ∈ Tape.transcript n events) : i.port = filePort := by
  induction events generalizing n with
  | nil => cases h
  | cons e events ih =>
    cases e with
    | asked c a =>
      rcases List.mem_cons.mp h with rfl | h
      · rfl
      · exact ih h
    | told => exact ih h

/-- Everything on a tape that holds a transcript is left to be replayed at first. -/
theorem ofTape_transcript (tape version : String) (moment : Moment) (n : Nat)
    (events : List Event) :
    Replay.ofTape ⟨tape, moment, version, Tape.transcript n events⟩ =
      ⟨tape, Tape.transcript n events⟩ := by
  rw [Replay.ofTape, List.filter_eq_self.mpr]
  intro i hi
  simp [port_of_mem_transcript hi]

/-- Whatever the file system and whatever the script asks for, `generate`, `showTarget` and `convert`
included, a recorded run takes the course that the run takes on the file system alone, and leaves it
in the same state. Replayed from the tape of that run, the script gets every answer again, and ends
as it did unless the file system gave up on a call. Where the file system answers every call, no call
crashes in either run. -/
theorem replay_of_recording (fs : FileSystem (StateM σ)) (script : Script α) (s : σ)
    (tape version : String) (moment : Moment) :
    let alone := script.course fs s
    let recorded := script.course fs.recording [] s
    let replay := Replay.ofTape ⟨tape, moment, version, recorded.1.2⟩
    let replayed := (script.course .replaying replay).1
    recorded.1.1 = alone.1 ∧ recorded.2 = alone.2 ∧
    replayed.events = recorded.1.1.events ∧
    (replayed = recorded.1.1 ∧
        (script.run .replaying replay).1 = (script.run fs.recording [] s).1.1 ∨
      ∃ crash, alone.1.ending = .crashed crash) ∧
    (fs.Answering →
      replayed = recorded.1.1 ∧
      (script.run .replaying replay).1 = (script.run fs.recording [] s).1.1 ∧
      ∀ crash, recorded.1.1.ending ≠ .crashed crash ∧ replayed.ending ≠ .crashed crash) := by
  intro alone recorded replay replayed
  have hrecorded : recorded = _ := course_recording fs script [] s
  have hreplay : replay = ⟨tape, Tape.transcript 0 alone.1.events⟩ := by
    simp only [replay, hrecorded]
    exact ofTape_transcript tape version moment 0 alone.1.events
  obtain ⟨hevents, hcourse⟩ := course_replaying fs script s tape 0
  rw [← hreplay] at hevents hcourse
  have hrun : replayed = alone.1 →
      (script.run .replaying replay).1 = (script.run fs.recording [] s).1.1 := by
    intro h
    rw [run_recording, Script.run_eq_course, Script.stateM_map]
    exact congrArg Course.run h
  rw [hrecorded]
  refine ⟨rfl, rfl, hevents, hcourse.imp_left fun h => ⟨h, hrun h⟩, fun hanswering => ?_⟩
  have hcrash := Script.course_not_crashed hanswering script s
  have hsame : replayed = alone.1 := hcourse.resolve_right fun ⟨crash, h⟩ => hcrash crash h
  refine ⟨hsame, hrun hsame, fun crash => ⟨hcrash crash, ?_⟩⟩
  rw [hsame]
  exact hcrash crash

/-- A rule that a compiler wrote. -/
def compiledRule : Store :=
  Store.empty.insert (.ofString "a.d") (.ofString "a.o: a.c\n")

/-- A store in which one file cannot be written. -/
def denying : Store.Faulty :=
  .ofRefusals [⟨"write", .ofString "d.mak", "denied"⟩]

def convertRule : Script Outcome :=
  convert (.ofString "a.d") (.ofString "d.mak") none

/-- The refusal of the write is on the tape, and fails the conversion again. -/
theorem replay_of_recording_denied :
    let recorded := (convertRule.course denying.fileSystem.recording [] compiledRule).1
    let replay := Replay.ofTape ⟨"convert", ⟨0, 0, 0⟩, toolVersion, recorded.2⟩
    let replayed := (convertRule.course .replaying replay).1
    recorded.2.map (fun i => (i.method, (i.output.get? "err").bind Json.text?)) =
        [("read", none), ("exists", none), ("write", some "denied")] ∧
      replayed = recorded.1 ∧ replayed.ending.done? = none ∧
      ∀ crash, replayed.ending ≠ .crashed crash := by
  intro recorded replay replayed
  have htape : recorded.2.map (fun i => (i.method, (i.output.get? "err").bind Json.text?)) =
      [("read", none), ("exists", none), ("write", some "denied")] := by decide +kernel
  have hended : recorded.1.ending.done? = none := by decide +kernel
  obtain ⟨-, -, -, -, hanswered⟩ := replay_of_recording denying.fileSystem convertRule compiledRule
    "convert" toolVersion ⟨0, 0, 0⟩
  obtain ⟨hsame, -, hcrash⟩ := hanswered denying.answering
  exact ⟨htape, hsame, (congrArg (·.ending.done?) hsame).trans hended, fun c => (hcrash c).2⟩

end IncludeRules
