/-
Module: HardwareDecode.Proofs.FrameBracket
Purpose: What a submission does to the device, on every way out: a frame that began is ended exactly
  once and by the last call, and the device lock is held at every call and free afterwards.
Main exports: Bracketed, SubmissionDialogue.bracketed, Backend.Brackets, submissions_are_bracketed
-/
import HardwareDecode.Proofs.FirstFailure

namespace HardwareDecode

variable {S ν σ ο : Type}

/-- A begin that did not succeed. -/
def Answered.FailsToBegin (answered : Answered S) : Prop :=
  ∃ surface outcome, outcome ≠ .ok () ∧ answered = ⟨.beginFrame surface, outcome⟩

/-- Calls that neither begin a frame nor end one. -/
def Call.isWork : Call S → Prop
  | .beginFrame _ | .endFrame => False
  | _ => True

/-- Either no begin succeeds and nothing else is called, or the begin that succeeds is the last one
and the only end is the last call. -/
inductive Bracketed : Dialogue S → Prop where
  | unopened {attempts : Dialogue S} (failed : ∀ attempt ∈ attempts, attempt.FailsToBegin) :
      Bracketed attempts
  | closed {attempts work : Dialogue S} (failed : ∀ attempt ∈ attempts, attempt.FailsToBegin)
      (surface : S) (inside : ∀ answered ∈ work, answered.call.isWork) (outcome : Outcome Unit) :
      Bracketed
        (attempts ++ [⟨.beginFrame surface, .ok ()⟩] ++ work ++ [⟨.endFrame, outcome⟩])

theorem busyBegins_fail {surface : S} {count : Nat} :
    ∀ attempt ∈ busyBegins surface count, attempt.FailsToBegin := by
  intro attempt member
  have busy := List.eq_of_mem_replicate member
  exact ⟨surface, .failed .pending, nofun, busy⟩

theorem BeginDialogue.fails {policy : RetryPolicy} {surface : S} {dialogue : Dialogue S}
    {interruption : Interruption}
    (said : BeginDialogue policy surface dialogue (.error interruption)) :
    ∀ attempt ∈ dialogue, attempt.FailsToBegin := by
  intro attempt member
  cases said with
  | stillBusy => exact busyBegins_fail attempt member
  | failed _ _ | panicked =>
      rcases List.mem_append.mp member with early | last
      · exact busyBegins_fail attempt early
      · rw [List.mem_singleton.mp last]
        refine ⟨surface, _, ?_, rfl⟩
        nofun

theorem CommitDialogue.works {kind : BufferKind} {payload : Bytes} {macroblocks : UInt32}
    {dialogue : Dialogue S} {result : Except Interruption Descriptor}
    (said : CommitDialogue kind payload macroblocks dialogue result) :
    ∀ answered ∈ dialogue, answered.call.isWork := by
  cases said <;> simp [Call.isWork]

theorem AssemblyDialogue.works {assembler : Assembler ν} {batch : Batch} {dialogue : Dialogue S}
    {result : Except Interruption Batch}
    (said : AssemblyDialogue assembler batch dialogue result) :
    ∀ answered ∈ dialogue, answered.call.isWork := by
  induction said with
  | finish | fail | panic => nofun
  | commitSucceeds committed _ inductionHypothesis
  | commitFails committed _ inductionHypothesis =>
      intro answered member
      rcases List.mem_append.mp member with early | late
      · exact committed.works answered early
      · exact inductionHypothesis answered late
  | commitPanics committed => exact committed.works
  | inspect _ inductionHypothesis | note _ inductionHypothesis => exact inductionHypothesis

theorem ExecutionDialogue.works {expected : Nat} {batch : Batch} {dialogue : Dialogue S}
    {result : Except Interruption Batch} (said : ExecutionDialogue expected batch dialogue result) :
    ∀ answered ∈ dialogue, answered.call.isWork := by
  cases said <;> simp [Call.isWork]

theorem StageDialogue.InOrder.works {stages : List (StageDialogue S)} {batch : Batch}
    {dialogue : Dialogue S} {result : Except Interruption Batch}
    (each : ∀ stage ∈ stages, ∀ {batch dialogue result}, stage batch dialogue result →
      ∀ answered ∈ dialogue, answered.call.isWork)
    (said : InOrder stages batch dialogue result) :
    ∀ answered ∈ dialogue, answered.call.isWork := by
  induction said with
  | done => nofun
  | stops interrupted => exact each _ (List.mem_cons_self ..) interrupted
  | goesOn succeeded _ inductionHypothesis =>
      intro answered member
      rcases List.mem_append.mp member with early | late
      · exact each _ (List.mem_cons_self ..) succeeded answered early
      · exact inductionHypothesis
          (fun stage later => each stage (List.mem_cons_of_mem _ later)) answered late

theorem Frame.stages_work {frame : Frame S ν} :
    ∀ stage ∈ frame.stages, ∀ {batch dialogue result}, stage batch dialogue result →
      ∀ answered ∈ dialogue, answered.call.isWork := by
  apply stages_forall
  · rintro kind payload batch dialogue _ ⟨committed, said, rfl⟩
    exact said.works
  · exact AssemblyDialogue.works
  · exact ExecutionDialogue.works

theorem SubmissionDialogue.bracketed {policy : RetryPolicy} {frame : Frame S ν}
    {dialogue : Dialogue S} {result : Except Interruption Unit}
    (said : SubmissionDialogue policy frame dialogue result) : Bracketed dialogue := by
  cases said with
  | notBegun opening => exact .unopened opening.fails
  | ended opening inOrder _ =>
      cases opening with
      | began => exact .closed busyBegins_fail frame.surface (inOrder.works Frame.stages_work) _

/-- The device is locked when the driver is called, the calls of the submission are bracketed, and
the lock is free once the submission is over.  Only two panics that come together keep it from being
over. -/
structure Backend.Brackets (backend : Backend S σ ο) (session : Session) (frame : Frame S ν)
    (world : World σ) : Prop where
  locked : ∀ {trace journal call resume after},
    backend.environment.Reaches (session.submit frame).run world trace journal
        (.ask (.call call) resume) after →
      ∀ id, session.lock = .mutex id → after.locks.isHeld session.lock = true
  bracketed : ∀ {trace journal result after},
    backend.environment.Reaches (session.submit frame).run world trace journal (.done result)
        after →
      Bracketed (driverCalls trace) ∧ after.locks.isFree session.lock = true
  stops : ∃ trace journal rest after,
    backend.environment.Reaches (session.submit frame).run world trace journal rest after ∧
      ((∃ result, rest = .done result) ∨
        (∃ resume, rest = .ask .abort resume) ∧
          AbortedDialogue session.retry frame (driverCalls trace))

theorem brackets_of_isFree {backend : Backend S σ ο} {session : Session} {frame : Frame S ν}
    {world : World σ} (free : world.locks.isFree session.lock = true) :
    backend.Brackets session frame world := by
  have inStep : Phase.idle.InStep backend session.lock world := Phase.inStep_idle free
  have framed : (session.submit frame).run.Obeys (framing session.lock) _ .idle := submit_framed
  constructor
  · intro trace journal call resume after reached id mutex
    obtain ⟨obeys, held⟩ := framed.of_reaches (backend.keepsStep_framing _) inStep reached
    rw [held.held id mutex]
    exact Phase.holds_of_allows_call (Program.obeys_ask.mp obeys).1
  · intro trace journal result after reached
    have spoken := submit_speaks.of_reaches_recording reached
    obtain ⟨outcome, said, _⟩ := Program.obeys_done.mp spoken
    obtain ⟨obeys, held⟩ := framed.of_reaches (backend.keepsStep_framing _) inStep reached
    rw [(Program.obeys_done.mp obeys).1] at held
    exact ⟨said.bracketed, held.isFree_of_idle⟩
  · obtain ⟨trace, journal, rest, after, reached, stopped⟩ := framed.exists_stop_framed inStep
    refine ⟨trace, journal, rest, after, reached, ?_⟩
    rcases stopped with done | ⟨resume, rfl⟩
    · exact .inl done
    · have spoken := submit_speaks.of_reaches_recording reached
      exact .inr ⟨⟨resume, rfl⟩, (Program.obeys_ask.mp spoken).1⟩

/-- However many steps a session has done, with a lock that was free at first, it brackets the next
submission. -/
theorem submissions_are_bracketed {backend : Backend S σ ο} {session : Session}
    {earlier : List (Session.Step S ν)} {frame : Frame S ν} {world : World σ}
    {before : Finished (List Session.Result × Session) (World σ) (Entry ο ν)}
    (free : world.locks.isFree session.lock = true)
    (ran : backend.run (session.performAll earlier) world = some before) :
    before.value.2.lock = session.lock ∧
      backend.Brackets before.value.2 frame before.world := by
  obtain ⟨trace, reached⟩ := Environment.run_eq_some_iff.mp ran
  obtain ⟨obeys, inStep⟩ := (performAll_framed session earlier).of_reaches
    (backend.keepsStep_framing _) (Phase.inStep_idle free) reached
  obtain ⟨idle, same⟩ := Program.obeys_done.mp obeys
  rw [idle] at inStep
  have still : before.world.locks.isFree before.value.2.lock = true := by
    rw [same]
    exact inStep.isFree_of_idle
  exact ⟨same, brackets_of_isFree still⟩

/-- A session goes on after a submission that found the device busy and then panicked. -/
theorem submission_is_bracketed_after_panic :
    ∃ before,
      ({} : Locks).isFree (.mutex 0) = true ∧
        Scripted.context.run
            (Session.performAll { format := .textureArray, lock := .mutex 0 }
              [.submit
                { surface := { name := "s", slice := 0 }
                  pictureParameters := [1]
                  assembler := (.panic .outOfRange : Assembler Empty) }])
            { driver := { script := { begins := [.failed .pending] } } } = some before ∧
          before.value.2.lock = .mutex 0 ∧
            Scripted.context.Brackets before.value.2
              { surface := { name := "t", slice := 1 }
                pictureParameters := [1]
                assembler := (.fail (.stillBusy 0) : Assembler Empty) } before.world := by
  have finishes : (Scripted.context.run
      (Session.performAll { format := .textureArray, lock := .mutex 0 }
        [.submit
          { surface := { name := "s", slice := 0 }
            pictureParameters := [1]
            assembler := (.panic .outOfRange : Assembler Empty) }])
      { driver := { script := { begins := [.failed .pending] } } }).isSome = true := by
    decide +kernel
  obtain ⟨before, ran⟩ := Option.isSome_iff_exists.mp finishes
  exact ⟨before, rfl, ran, submissions_are_bracketed rfl ran⟩

end HardwareDecode
