/-
Module: HardwareDecode.Proofs.Framing
Purpose: The order in which a session uses a device: it takes the lock, begins a frame, works on it,
  ends it and lets go of the lock.  Every submission keeps to that order whatever it is answered, on
  every way out.
Main exports: Phase, framing, Phase.Move, Phase.move_of_allowed, submit_framed, performAll_framed,
  life_framed
-/
import HardwareDecode.Proofs.Submission
import HardwareDecode.Session.Step

namespace HardwareDecode

variable {S ν : Type}

/-- How far a user of a device is with a frame. -/
inductive Phase where
  /-- The session is not open yet. -/
  | opening
  | idle
  /-- The lock is held, and no frame has begun. -/
  | holding
  | inFrame
  /-- The frame was ended, and the lock is still held. -/
  | ended
deriving DecidableEq, Repr, Inhabited

namespace Phase

/-- Whether the lock is held. -/
def holds : Phase → Bool
  | opening | idle => false
  | holding | inFrame | ended => true

/-- What may be asked for in a phase. -/
def allows (lock : DeviceLock) : Phase → Request S ν → Prop
  | _, .log _ => True
  | opening, .query .kind | opening, .query .deviceLock => True
  | idle, .query .kind | idle, .query (.surfaceIndex _) | idle, .sleep _ => True
  | idle, .acquire wanted => wanted = lock
  | holding, .call (.beginFrame _) => True
  | inFrame, .call (.beginFrame _) => False
  | inFrame, .call _ | inFrame, .store _ _ | inFrame, .note _ => True
  | ended, .abort => True
  | holding, .free held _ | ended, .free held _ => held = lock
  | _, _ => False

/-- A frame is open from a begin that succeeds to the return of an end, failed or not. -/
def next : Phase → (request : Request S ν) → request.Answer → Phase
  | _, .call (.beginFrame _), .ok _ => inFrame
  | _, .call .endFrame, _ => ended
  | inFrame, _, _ => inFrame
  | _, .acquire _, _ => holding
  | _, .free _ _, _ | _, .query .deviceLock, _ => idle
  | phase, _, _ => phase

/-- The phase in which an attempt to begin ends. -/
def afterBegin : Except Interruption Unit → Phase
  | .ok _ => inFrame
  | .error _ => idle

end Phase

/-- The order in which a session with a given lock uses its device.  The backend is relied on to
name that lock when the session is opened. -/
def framing (lock : DeviceLock) : Protocol S ν Phase where
  expects
    | .query .deviceLock, answer => answer = lock
    | _, _ => True
  allows := Phase.allows lock
  next := Phase.next

/-- The requests with which a frame is worked on once it has begun. -/
def Request.isWork : Request S ν → Prop
  | .call (.getBuffer _) | .call (.releaseBuffer _) | .call (.submitBuffers _) => True
  | .store _ _ | .log _ | .note _ => True
  | _ => False

/-- The requests with which a frame is begun. -/
def Request.isOpening : Request S ν → Prop
  | .call (.beginFrame _) | .acquire _ | .free _ _ | .sleep _ | .log _ => True
  | _ => False

/-- Messages about the time until a frame begins. -/
def LogRecord.isOpening : LogRecord → Prop
  | .busy _ | .beganAfter _ | .beginFailed _ => True
  | _ => False

/-- Messages about the work on a frame. -/
def LogRecord.isWork : LogRecord → Prop
  | .getFailed _ _ | .tooSmall _ | .committed _ _ | .releaseFailed _ _ => True
  | .stageFailed _ | .executeFailed _ => True
  | _ => False

/-- The requests with which a frame is begun, and no messages but those about it. -/
def Request.opensFrame : Request S ν → Prop
  | .log record => record.isOpening
  | request => request.isOpening

/-- The requests with which a frame is worked on, and no messages but those about it. -/
def Request.worksOnFrame : Request S ν → Prop
  | .log record => record.isWork
  | request => request.isWork

theorem Request.isOpening_of_opensFrame (request : Request S ν) (opens : request.opensFrame) :
    request.isOpening := by
  cases request <;> first | exact opens | trivial

theorem Request.isWork_of_worksOnFrame (request : Request S ν) (works : request.worksOnFrame) :
    request.isWork := by
  cases request <;> first | exact works | trivial

/-- Requests that neither concern a lock nor call the driver. -/
def Request.isQuiet : Request S ν → Prop
  | .log _ | .note _ | .store _ _ | .sleep _ | .query _ => True
  | _ => False

/-- Everything that can happen in a phase. -/
inductive Phase.Move (lock : DeviceLock) :
    Phase → (request : Request S ν) → request.Answer → Phase → Prop where
  | rests {phase : Phase} {request : Request S ν} {answer : request.Answer}
      (quiet : request.isQuiet) : Move lock phase request answer phase
  | opens (named : DeviceLock) : Move lock .opening (.query .deviceLock) named .idle
  | takes : Move lock .idle (.acquire lock) () .holding
  | begins (surface : S) : Move lock .holding (.call (.beginFrame surface)) (.ok ()) .inFrame
  | beginFails (surface : S) {outcome : Outcome Unit} (failed : ∀ value, outcome ≠ .ok value) :
      Move lock .holding (.call (.beginFrame surface)) outcome .holding
  | works {call : Call S} {outcome : Outcome call.Answer}
      (work : (.call call : Request S ν).isWork) :
      Move lock .inFrame (.call call) outcome .inFrame
  | ends (outcome : Outcome Unit) : Move lock .inFrame (.call .endFrame) outcome .ended
  | frees {phase : Phase} (held : phase.holds = true) (closed : phase ≠ .inFrame)
      (unwinding : Bool) : Move lock phase (.free lock unwinding) () .idle

theorem Phase.move_of_allowed {lock : DeviceLock} {phase : Phase} {request : Request S ν}
    (allowed : phase.allows lock request) (answer : request.Answer) :
    Move lock phase request answer (phase.next request answer) := by
  rcases request with call | _ | _ | _ | _ | _ | _ | query | _
  · cases call with
    | beginFrame surface =>
        cases phase with
        | holding =>
            cases answer with
            | ok _ => exact .begins surface
            | _ => exact .beginFails surface nofun
        | _ => exact False.elim allowed
    | endFrame =>
        cases phase with
        | inFrame => exact .ends answer
        | _ => exact False.elim allowed
    | _ =>
        cases phase with
        | inFrame => exact .works trivial
        | _ => exact False.elim allowed
  · cases phase with
    | inFrame => exact .rests trivial
    | _ => exact False.elim allowed
  · cases phase with
    | idle =>
        obtain rfl := allowed
        exact .takes
    | _ => exact False.elim allowed
  · cases phase with
    | holding | ended =>
        obtain rfl := allowed
        exact .frees rfl (by nofun) _
    | _ => exact False.elim allowed
  · cases phase with
    | idle => exact .rests trivial
    | _ => exact False.elim allowed
  · cases phase <;> exact .rests trivial
  · cases phase with
    | inFrame => exact .rests trivial
    | _ => exact False.elim allowed
  · cases phase with
    | opening =>
        cases query with
        | kind => exact .rests trivial
        | deviceLock => exact .opens answer
        | surfaceIndex _ => exact False.elim allowed
    | idle =>
        cases query with
        | deviceLock => exact False.elim allowed
        | _ => exact .rests trivial
    | _ => cases query <;> exact False.elim allowed
  · exact nomatch answer

open HardwareDecode.Action

/-! ### Work on an open frame -/

theorem fill_asks {kind : BufferKind} {payload lent : Bytes} {macroblocks : UInt32} :
    (fill kind payload lent macroblocks : Action S ν Descriptor).run.Asks Request.worksOnFrame := by
  unfold fill
  split
  · exact asks_bind (asks_request trivial) fun _ =>
      asks_bind (asks_log trivial) fun _ => asks_pure
  · exact asks_bind (asks_log trivial) fun _ => asks_fail

theorem commit_asks {kind : BufferKind} {payload : Bytes} {macroblocks : UInt32} :
    (commit kind payload macroblocks : Action S ν Descriptor).run.Asks Request.worksOnFrame := by
  unfold commit
  apply asks_bind (asks_call trivial)
  intro lent
  cases lent with
  | error status => exact asks_bind (asks_log trivial) fun _ => asks_fail
  | ok lent =>
      apply asks_bind (asks_attempt fill_asks)
      intro filled
      apply asks_bind (asks_call trivial)
      intro released
      cases released with
      | error status => exact asks_bind (asks_log trivial) fun _ => asks_fail
      | ok _ =>
          cases filled with
          | ok descriptor => exact asks_pure
          | error error => exact asks_fail

theorem add_asks {batch : Batch} {kind : BufferKind} {payload : Bytes} {macroblocks : UInt32} :
    (batch.add kind payload macroblocks : Action S ν _).run.Asks Request.worksOnFrame := by
  unfold Batch.add
  apply asks_bind (asks_attempt commit_asks)
  intro result
  cases result <;> exact asks_pure

theorem require_asks {batch : Batch} {kind : BufferKind} {payload : Bytes} {macroblocks : UInt32} :
    (batch.require kind payload macroblocks : Action S ν Batch).run.Asks Request.worksOnFrame := by
  unfold Batch.require
  apply asks_bind add_asks
  rintro ⟨result, after⟩
  cases result with
  | ok _ => exact asks_pure
  | error error => exact asks_fail

theorem assemble_asks {assembler : Assembler ν} {batch : Batch} :
    (assembler.assemble batch : Action S ν Batch).run.Asks Request.worksOnFrame := by
  induction assembler generalizing batch with
  | finish => exact asks_pure
  | fail error => exact asks_fail
  | panic cause => exact asks_panic
  | commit kind payload macroblocks next inductionHypothesis =>
      rw [Assembler.assemble]
      exact asks_bind add_asks fun added => inductionHypothesis added.1
  | inspect next inductionHypothesis => exact inductionHypothesis batch.descriptors
  | note mark next inductionHypothesis =>
      rw [Assembler.assemble]
      exact asks_bind (asks_request trivial) fun _ => inductionHypothesis

theorem requireMatrix_asks {frame : Frame S ν} {batch : Batch} :
    (frame.requireMatrix batch).run.Asks Request.worksOnFrame := by
  unfold Frame.requireMatrix
  split
  · exact asks_pure
  · exact asks_onFailure require_asks (by trivial)

theorem frame_assemble_asks {frame : Frame S ν} : frame.assemble.run.Asks Request.worksOnFrame := by
  unfold Frame.assemble
  apply asks_bind (asks_onFailure require_asks (by trivial))
  intro batch
  exact asks_bind requireMatrix_asks fun _ => asks_onFailure assemble_asks (by trivial)

theorem submit_asks {batch : Batch} :
    (Frame.submit batch : Action S ν Unit).run.Asks Request.worksOnFrame := by
  unfold Frame.submit
  apply asks_bind (asks_call trivial)
  intro submitted
  cases submitted with
  | ok _ => exact asks_pure
  | error status => exact asks_bind (asks_log trivial) fun _ => asks_fail

theorem execute_worksOnFrame {frame : Frame S ν} :
    frame.execute.run.Asks Request.worksOnFrame := by
  unfold Frame.execute
  apply asks_bind frame_assemble_asks
  intro batch
  cases batch.check frame.batchSize with
  | ok _ => exact submit_asks
  | error cause => exact asks_panic

/-- Between its begin and its end a frame only makes requests that work on it. -/
theorem execute_asks {frame : Frame S ν} : frame.execute.run.Asks Request.isWork :=
  execute_worksOnFrame.mono Request.isWork_of_worksOnFrame

/-! ### Submissions -/

theorem framing_grantsAttempts {policy : RetryPolicy} {lock : DeviceLock} {surface : S} :
    (framing lock : Protocol S ν Phase).GrantsAttempts policy lock surface
      (fun _ phase => phase = .holding) (fun phase result => phase = .afterBegin result) where
  calls := by
    rintro _ _ rfl
    trivial
  begins := by
    rintro _ _ rfl
    exact ⟨rfl, trivial, rfl⟩
  waits := by
    rintro _ _ rfl _
    exact ⟨trivial, rfl, trivial⟩
  wakes := by
    rintro _ _ rfl _
    exact ⟨rfl, rfl⟩
  disturbed := by
    rintro _ _ _ rfl _ _
    rfl
  fails := by
    rintro _ _ _ rfl _
    exact ⟨rfl, trivial, rfl⟩
  panics := by
    rintro _ _ rfl _
    exact ⟨rfl, rfl⟩

theorem opensFrame_grantsAttempts {policy : RetryPolicy} {lock : DeviceLock} {surface : S} :
    (Protocol.asking Request.opensFrame : Protocol S ν Unit).GrantsAttempts policy lock surface
      (fun _ _ => True) (fun _ _ => True) where
  calls _ := trivial
  begins _ := ⟨trivial, trivial, trivial⟩
  waits _ _ := ⟨trivial, trivial, trivial⟩
  wakes _ _ := ⟨trivial, trivial⟩
  disturbed _ _ _ := trivial
  fails _ _ := ⟨trivial, trivial, trivial⟩
  panics _ _ := ⟨trivial, trivial⟩

theorem begin_opensFrame {policy : RetryPolicy} {lock : DeviceLock} {surface : S} :
    (policy.begin lock surface : Action S ν Unit).run.Asks Request.opensFrame :=
  begin_granted opensFrame_grantsAttempts trivial trivial

theorem begin_asks {policy : RetryPolicy} {lock : DeviceLock} {surface : S} :
    (policy.begin lock surface : Action S ν Unit).run.Asks Request.isOpening :=
  begin_opensFrame.mono Request.isOpening_of_opensFrame

theorem begin_framed {policy : RetryPolicy} {lock : DeviceLock} {surface : S} :
    (policy.begin lock surface : Action S ν Unit).run.Obeys (framing lock)
      (fun phase result => phase = .afterBegin result) .idle :=
  begin_granted framing_grantsAttempts rfl rfl

theorem execute_framed {lock : DeviceLock} {frame : Frame S ν} :
    frame.execute.run.Obeys (framing lock) (fun phase _ => phase = .inFrame) .inFrame := by
  refine execute_asks.obeys ?_ ?_
  · intro request work
    rcases request with (_ | _) | _ | _ | _ | _ | _ | _ | _ | _ <;> trivial
  · intro request work answer
    rcases request with (_ | _) | _ | _ | _ | _ | _ | _ | _ | _ <;> trivial

theorem framing_ignoresLogs {lock : DeviceLock} :
    (framing lock : Protocol S ν Phase).IgnoresLogs where
  allowed phase _ := by cases phase <;> trivial
  kept phase _ _ := by cases phase <;> rfl

/-- A session that is the same again still has the lock it was opened with. -/
theorem Session.concluded_lock {session after : Session} {executed : Except Interruption Unit}
    {outcome : Outcome Unit} (same : session.concluded executed outcome = .ok after) :
    after.lock = session.lock := by
  rcases executed with (_ | _) | _ <;> rcases outcome with _ | _ | _ <;> cases same
  rfl

theorem submit_framed {session : Session} {frame : Frame S ν} :
    (session.submit frame).run.Obeys (framing session.lock)
      (fun phase result => phase = .idle ∧ ∀ after, result = .ok after → after.lock = session.lock)
      .idle := by
  apply submit_obeys framing_ignoresLogs begin_framed
  · intro _ interruption begun
    exact ⟨begun, nofun⟩
  · rintro _ rfl
    apply execute_framed.weaken
    rintro _ executed rfl
    exact {
      ended := trivial
      freed := fun _ _ => ⟨rfl, rfl, fun _ => Session.concluded_lock⟩
      aborted := fun _ _ => trivial }

theorem perform_framed {session : Session} {step : Session.Step S ν} :
    (session.perform step).Obeys (framing session.lock)
      (fun phase done => phase = .idle ∧ done.2.lock = session.lock) .idle := by
  cases step with
  | submit frame =>
      rw [Session.perform, Program.obeys_bind]
      apply submit_framed.weaken
      rintro _ (interruption | after) ⟨rfl, same⟩
      · exact Program.obeys_done.mpr ⟨rfl, rfl⟩
      · exact Program.obeys_done.mpr ⟨rfl, same after rfl⟩
  | setRetry policy => exact Program.obeys_done.mpr ⟨rfl, rfl⟩
  | surfaceIndex surface =>
      rw [Session.perform, Program.obeys_bind, Session.surfaceIndex, Program.obeys_bind,
        Program.obeys_request]
      refine ⟨trivial, fun index _ => ?_⟩
      cases index with
      | none => exact Program.obeys_done.mpr (Program.obeys_done.mpr ⟨rfl, rfl⟩)
      | some index => exact Program.obeys_done.mpr (Program.obeys_done.mpr ⟨rfl, rfl⟩)
  | info =>
      rw [Session.perform, Program.obeys_bind, Program.obeys_request]
      refine ⟨trivial, fun kind _ => ?_⟩
      rw [Program.obeys_bind, Program.obeys_request]
      exact ⟨trivial, fun asked _ => Program.obeys_done.mpr ⟨rfl, rfl⟩⟩

theorem performAll_framed (session : Session) (steps : List (Session.Step S ν)) :
    (session.performAll steps).Obeys (framing session.lock)
      (fun phase done => phase = .idle ∧ done.2.lock = session.lock) .idle := by
  induction steps generalizing session with
  | nil => exact Program.obeys_done.mpr ⟨rfl, rfl⟩
  | cons step steps inductionHypothesis =>
      rw [Session.performAll, Program.obeys_bind]
      apply perform_framed.weaken
      rintro _ ⟨result, after⟩ ⟨rfl, same⟩
      simp only at same ⊢
      rw [Program.obeys_bind, ← same]
      exact (inductionHypothesis after).weaken fun _ _ kept => Program.obeys_done.mpr kept

theorem life_framed {lock : DeviceLock} {format : PixelFormat} {policy : RetryPolicy}
    {steps : List (Session.Step S ν)} :
    (Session.life format policy steps).Obeys (framing lock) (fun phase _ => phase.holds = false)
      .opening := by
  rw [Session.life, Program.obeys_bind, Session.open?]
  cases format.backend with
  | error refusal => exact Program.obeys_done.mpr (Program.obeys_done.mpr rfl)
  | ok expected =>
      rw [Program.obeys_bind, Program.obeys_request]
      refine ⟨trivial, fun actual _ => ?_⟩
      split
      · apply Program.obeys_bind.mpr
        refine Program.obeys_request.mpr ⟨trivial, fun named agreed => ?_⟩
        obtain rfl : named = lock := agreed
        apply Program.obeys_done.mpr
        apply Program.obeys_bind.mpr
        apply (performAll_framed { format, lock := named, retry := policy } steps).weaken
        rintro _ _ ⟨rfl, _⟩
        exact Program.obeys_done.mpr rfl
      · exact Program.obeys_done.mpr (Program.obeys_done.mpr rfl)

end HardwareDecode
