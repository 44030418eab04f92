/-
Module: HardwareDecode.Proofs.Speaking
Purpose: Every submission speaks the grammar of dialogues, whatever the driver answers.  One rule
  for each way in which computations are put together, and one theorem for each function of a
  session.
Main exports: recording, Program.Speaks, speaks_bind, commit_speaks, assemble_speaks,
  execute_speaks, begin_speaks, submit_speaks
-/
import HardwareDecode.Proofs.Dialogue
import HardwareDecode.Proofs.Submission

namespace HardwareDecode

variable {S ν α : Type}

/-- Everything is allowed, except to give up before `aborts` is said, and the driver calls are
remembered.  The surroundings are relied on to let a sleeper wake up. -/
def recording (aborts : Dialogue S → Prop) : Protocol S ν (Dialogue S) where
  expects
    | .sleep _, answer => answer = .ok ()
    | _, _ => True
  allows
    | said, .abort => aborts said
    | _, _ => True
  next
    | said, .call call, outcome => said ++ [⟨call, outcome⟩]
    | said, _, _ => said

theorem recording_after (aborts : Dialogue S → Prop) (said : Dialogue S)
    (trace : List (Exchange S ν)) :
    (recording aborts).after said trace = said ++ driverCalls trace := by
  induction trace generalizing said with
  | nil => simp [Protocol.after, driverCalls]
  | cons exchange trace inductionHypothesis =>
      rcases exchange with ⟨request, answer⟩
      have later := inductionHypothesis ((recording aborts).next said request answer)
      cases request with
      | call call => exact later.trans (List.append_assoc said [⟨call, answer⟩] (driverCalls trace))
      | _ => exact later

/-- Requests that are nothing said to the driver. -/
def Request.isSilent : Request S ν → Prop
  | .call _ | .abort => False
  | _ => True

/-- Behind whatever was said before, the program has a dialogue that agrees with its result, and
does not give up. -/
def Program.Speaks (grammar : Dialogue S → α → Prop) (program : Program S ν α) : Prop :=
  ∀ aborts before,
    program.Obeys (recording aborts)
      (fun said result => ∃ dialogue, said = before ++ dialogue ∧ grammar dialogue result) before

theorem Program.Speaks.weaken {grammar wider : Dialogue S → α → Prop} {program : Program S ν α}
    (speaks : program.Speaks grammar)
    (weaker : ∀ dialogue result, grammar dialogue result → wider dialogue result) :
    program.Speaks wider := by
  intro aborts before
  apply (speaks aborts before).weaken
  rintro _ result ⟨dialogue, rfl, said⟩
  exact ⟨dialogue, rfl, weaker dialogue result said⟩

open HardwareDecode.Action

theorem speaks_bind {β : Type} {action : Action S ν α} {next : α → Action S ν β}
    {grammar : Dialogue S → Except Interruption β → Prop}
    (speaks : action.run.Speaks fun front result =>
      match result with
      | .ok value => (next value).run.Speaks fun back last => grammar (front ++ back) last
      | .error interruption => grammar front (.error interruption)) :
    (action >>= next).run.Speaks grammar := by
  intro aborts before
  apply obeys_bind.mpr
  apply (speaks aborts before).weaken
  rintro _ result ⟨front, rfl, said⟩
  cases result with
  | error interruption => exact ⟨front, rfl, said⟩
  | ok value =>
      apply (said aborts (before ++ front)).weaken
      rintro _ last ⟨back, rfl, said⟩
      exact ⟨front ++ back, List.append_assoc .., said⟩

theorem speaks_pure {value : α} {grammar : Dialogue S → Except Interruption α → Prop}
    (said : grammar [] (.ok value)) : (pure value : Action S ν α).run.Speaks grammar :=
  fun _ before => obeys_pure.mpr ⟨[], (List.append_nil before).symm, said⟩

theorem speaks_fail {error : FrameError} {grammar : Dialogue S → Except Interruption α → Prop}
    (said : grammar [] (.error (.failure error))) :
    (Action.fail error : Action S ν α).run.Speaks grammar :=
  fun _ before => obeys_fail.mpr ⟨[], (List.append_nil before).symm, said⟩

theorem speaks_panic {cause : Panic} {grammar : Dialogue S → Except Interruption α → Prop}
    (said : grammar [] (.error (.panic cause))) :
    (Action.panic cause : Action S ν α).run.Speaks grammar :=
  fun _ before => obeys_panic.mpr ⟨[], (List.append_nil before).symm, said⟩

theorem speaks_call {call : Call S} {grammar : Dialogue S → Except Interruption _ → Prop}
    (said : ∀ outcome, grammar [⟨call, outcome⟩] (received outcome)) :
    (Action.call call : Action S ν _).run.Speaks grammar :=
  fun _ _ => obeys_call.mpr ⟨trivial, fun outcome _ => ⟨[⟨call, outcome⟩], rfl, said outcome⟩⟩

theorem speaks_silent (request : Request S ν) (silent : request.isSilent)
    {grammar : Dialogue S → Except Interruption request.Answer → Prop}
    (said : ∀ answer, grammar [] (.ok answer)) : (Action.request request).run.Speaks grammar := by
  intro aborts before
  apply obeys_request.mpr
  cases request with
  | call _ | abort => exact False.elim silent
  | _ => exact ⟨trivial, fun answer _ => ⟨[], (List.append_nil before).symm, said answer⟩⟩

theorem speaks_log {record : LogRecord} {grammar : Dialogue S → Except Interruption Unit → Prop}
    (said : grammar [] (.ok ())) : (Action.log record : Action S ν Unit).run.Speaks grammar :=
  speaks_silent (.log record) trivial fun _ => said

theorem speaks_attempt {action : Action S ν α}
    {grammar : Dialogue S → Except Interruption (Except FrameError α) → Prop}
    (speaks : action.run.Speaks fun dialogue result => grammar dialogue (attempted result)) :
    action.attempt.run.Speaks grammar :=
  fun aborts before => obeys_attempt.mpr (speaks aborts before)

theorem speaks_onFailure {record : LogRecord} {action : Action S ν α}
    {grammar : Dialogue S → Except Interruption α → Prop} (speaks : action.run.Speaks grammar) :
    (action.onFailure record).run.Speaks grammar := by
  intro aborts before
  apply obeys_onFailure.mpr
  apply (speaks aborts before).weaken
  intro _ result said
  rcases result with (error | cause) | value
  · exact ⟨trivial, fun _ _ => said⟩
  · exact said
  · exact said

/-! ### Commits -/

theorem fill_speaks {kind : BufferKind} {payload lent : Bytes} {macroblocks : UInt32} :
    (fill kind payload lent macroblocks : Action S ν Descriptor).run.Speaks
      fun dialogue result => dialogue = [] ∧
        (payload.Fits lent ∧ result = .ok (payload.describe kind macroblocks) ∨
          ¬payload.Fits lent ∧
            result = .error (.failure (.bufferTooSmall kind payload.length lent.length))) := by
  unfold fill
  split
  next fits =>
    exact speaks_bind (speaks_silent (.store kind _) trivial fun _ =>
      speaks_bind (speaks_log (speaks_pure ⟨rfl, .inl ⟨fits, rfl⟩⟩)))
  next large => exact speaks_bind (speaks_log (speaks_fail ⟨rfl, .inr ⟨large, rfl⟩⟩))

theorem commit_speaks {kind : BufferKind} {payload : Bytes} {macroblocks : UInt32} :
    (commit kind payload macroblocks : Action S ν Descriptor).run.Speaks
      (CommitDialogue kind payload macroblocks) := by
  unfold commit
  apply speaks_bind
  apply speaks_call
  intro got
  cases got with
  | failed status => exact speaks_bind (speaks_log (speaks_fail (.getFailed status)))
  | panicked cause => exact .getPanicked cause
  | ok lent =>
      apply speaks_bind
      apply speaks_attempt
      apply fill_speaks.weaken
      intro _ filled said
      rcases said with ⟨rfl, ⟨fits, rfl⟩ | ⟨large, rfl⟩⟩
      · apply speaks_bind
        apply speaks_call
        intro released
        cases released with
        | ok _ => exact speaks_pure (.committed fits)
        | failed status => exact speaks_bind (speaks_log (speaks_fail (.releaseFailed lent status)))
        | panicked cause => exact .releasePanicked lent cause
      · apply speaks_bind
        apply speaks_call
        intro released
        cases released with
        | ok _ => exact speaks_fail (.tooSmall large)
        | failed status => exact speaks_bind (speaks_log (speaks_fail (.releaseFailed lent status)))
        | panicked cause => exact .releasePanicked lent cause

/-! ### Stages -/

theorem add_speaks {batch : Batch} {kind : BufferKind} {payload : Bytes} {macroblocks : UInt32} :
    (batch.add kind payload macroblocks : Action S ν _).run.Speaks fun dialogue result =>
      ∃ committed, CommitDialogue kind payload macroblocks dialogue committed ∧
        result = (attempted committed).map fun committed =>
          (committed, committed.toOption.elim batch batch.push) := by
  unfold Batch.add
  apply speaks_bind
  apply speaks_attempt
  apply commit_speaks.weaken
  intro dialogue committed said
  rcases committed with (error | cause) | descriptor
  · exact speaks_pure ⟨_, by simpa using said, rfl⟩
  · exact ⟨_, said, rfl⟩
  · exact speaks_pure ⟨_, by simpa using said, rfl⟩

theorem require_speaks {batch : Batch} {kind : BufferKind} {payload : Bytes} :
    (batch.require kind payload 0 : Action S ν Batch).run.Speaks fun dialogue result =>
      StageDialogue.commit kind payload batch dialogue result := by
  unfold Batch.require
  apply speaks_bind
  apply add_speaks.weaken
  rintro dialogue _ ⟨committed, said, rfl⟩
  rcases committed with (error | cause) | descriptor
  · exact speaks_fail ⟨_, by simpa using said, rfl⟩
  · exact ⟨_, said, rfl⟩
  · exact speaks_pure ⟨_, by simpa using said, rfl⟩

theorem assemble_speaks {assembler : Assembler ν} {batch : Batch} :
    (assembler.assemble batch : Action S ν Batch).run.Speaks
      (AssemblyDialogue assembler batch) := by
  induction assembler generalizing batch with
  | finish => exact speaks_pure (.finish batch)
  | fail error => exact speaks_fail (.fail error batch)
  | panic cause => exact speaks_panic (.panic cause batch)
  | commit kind payload macroblocks next inductionHypothesis =>
      rw [Assembler.assemble]
      apply speaks_bind
      apply add_speaks.weaken
      rintro front _ ⟨committed, said, rfl⟩
      rcases committed with (error | cause) | descriptor
      · exact (inductionHypothesis _).weaken fun _ _ later => .commitFails said later
      · exact .commitPanics said
      · exact (inductionHypothesis _).weaken fun _ _ later => .commitSucceeds said later
  | inspect next inductionHypothesis =>
      exact (inductionHypothesis batch.descriptors).weaken fun _ _ later => .inspect later
  | note mark next inductionHypothesis =>
      rw [Assembler.assemble]
      exact speaks_bind (speaks_silent (.note mark) trivial fun _ =>
        inductionHypothesis.weaken fun _ _ later => .note later)

namespace StageDialogue

theorem InOrder.single {stage : StageDialogue S} {batch : Batch} {dialogue : Dialogue S}
    {result : Except Interruption Batch} (said : stage batch dialogue result) :
    InOrder [stage] batch dialogue result := by
  cases result with
  | error interruption => exact .stops said
  | ok between =>
      rw [← List.append_nil dialogue]
      exact .goesOn said (.done between)

/-- An interruption is not undone by the stages that would have come later. -/
theorem InOrder.append_error {front back : List (StageDialogue S)} {batch : Batch}
    {dialogue : Dialogue S} {interruption : Interruption}
    (said : InOrder front batch dialogue (.error interruption)) :
    InOrder (front ++ back) batch dialogue (.error interruption) := by
  generalize stopped : (Except.error interruption : Except Interruption Batch) = result at said
  induction said with
  | done batch => cases stopped
  | stops interrupted => exact .stops interrupted
  | goesOn succeeded _ inductionHypothesis => exact .goesOn succeeded (inductionHypothesis stopped)

theorem InOrder.append_ok {front back : List (StageDialogue S)} {batch between : Batch}
    {early late : Dialogue S} {result : Except Interruption Batch}
    (said : InOrder front batch early (.ok between)) (rest : InOrder back between late result) :
    InOrder (front ++ back) batch (early ++ late) result := by
  generalize finished : (Except.ok between : Except Interruption Batch) = first at said
  induction said with
  | done batch =>
      cases finished
      exact rest
  | stops interrupted => cases finished
  | goesOn succeeded _ inductionHypothesis =>
      rw [List.append_assoc]
      exact .goesOn succeeded (inductionHypothesis finished)

end StageDialogue

theorem speaks_inOrder {front back : List (StageDialogue S)} {batch : Batch}
    {action : Action S ν Batch} {next : Batch → Action S ν Batch}
    (first : action.run.Speaks (StageDialogue.InOrder front batch))
    (rest : ∀ between, (next between).run.Speaks (StageDialogue.InOrder back between)) :
    (action >>= next).run.Speaks (StageDialogue.InOrder (front ++ back) batch) := by
  apply speaks_bind
  apply first.weaken
  intro early result said
  cases result with
  | error interruption => exact said.append_error
  | ok between => exact (rest between).weaken fun _ _ later => said.append_ok later

theorem requireMatrix_speaks {frame : Frame S ν} {batch : Batch} :
    (frame.requireMatrix batch).run.Speaks
      (StageDialogue.InOrder
        (if frame.quantMatrix.isEmpty then []
          else [.commit .inverseQuantizationMatrix frame.quantMatrix]) batch) := by
  unfold Frame.requireMatrix
  split
  · exact speaks_pure (.done batch)
  · exact speaks_onFailure (require_speaks.weaken fun _ _ said => .single said)

theorem frame_assemble_speaks {frame : Frame S ν} :
    frame.assemble.run.Speaks
      (StageDialogue.InOrder (frame.ownStages ++ [AssemblyDialogue frame.assembler]) {}) := by
  rw [Frame.ownStages, List.append_assoc]
  apply speaks_inOrder
  · exact speaks_onFailure (require_speaks.weaken fun _ _ said => .single said)
  · intro batch
    apply speaks_inOrder requireMatrix_speaks
    intro batch
    exact speaks_onFailure (assemble_speaks.weaken fun _ _ said => .single said)

theorem frame_submit_speaks {batch : Batch} {expected : Nat}
    (checked : batch.check expected = .ok ()) :
    (Frame.submit batch : Action S ν Unit).run.Speaks fun dialogue result =>
      ∃ executed, ExecutionDialogue expected batch dialogue executed ∧
        result = executed.map fun _ => () := by
  unfold Frame.submit
  apply speaks_bind
  apply speaks_call
  intro submitted
  cases submitted with
  | ok _ => exact speaks_pure ⟨.ok batch, .executed checked, rfl⟩
  | failed status => exact speaks_bind (speaks_log (speaks_fail ⟨_, .failed checked status, rfl⟩))
  | panicked cause => exact ⟨_, .panicked checked cause, rfl⟩

/-- The work on a frame goes through its stages in order, up to the first that is interrupted. -/
theorem execute_speaks {frame : Frame S ν} :
    frame.execute.run.Speaks fun dialogue result =>
      ∃ worked, StageDialogue.InOrder frame.stages {} dialogue worked ∧
        result = worked.map fun _ => () := by
  unfold Frame.execute
  apply speaks_bind
  apply frame_assemble_speaks.weaken
  intro front result said
  cases result with
  | error interruption => exact ⟨_, said.append_error, rfl⟩
  | ok batch =>
      simp only
      cases checked : batch.check frame.batchSize with
      | error cause =>
          exact speaks_panic ⟨_, said.append_ok (.single (.misshapen checked)), rfl⟩
      | ok _ =>
          apply (frame_submit_speaks checked).weaken
          rintro back _ ⟨executed, later, rfl⟩
          exact ⟨executed, said.append_ok (.single later), rfl⟩

/-! ### Begins -/

theorem busyBegins_succ (surface : S) (count : Nat) :
    busyBegins surface (count + 1) =
      busyBegins surface count ++ [⟨.beginFrame surface, .failed .pending⟩] :=
  List.replicate_succ'

/-- An attempt that is not followed by another one ends the dialogue of a begin: the device is busy
at the last attempt, or the attempt failed for another reason. -/
theorem failed_begin_speaks {policy : RetryPolicy} {surface : S} {attempt : UInt32}
    {status : Status} {busy : Nat} (final : ¬(status.isPending ∧ attempt < policy.maxAttempts))
    (number : attempt.toNat = busy + 1) (bound : busy < policy.maxAttempts.toNat) :
    BeginDialogue policy surface
      (busyBegins surface busy ++ [⟨.beginFrame surface, .failed status⟩])
      (.error (.failure (RetryPolicy.failure attempt status))) := by
  by_cases pending : status.isPending
  · have last : attempt = policy.maxAttempts := by
      have reached : ¬attempt < policy.maxAttempts := fun below => final ⟨pending, below⟩
      rw [UInt32.lt_iff_toNat_lt] at reached
      exact UInt32.toNat_inj.mp (by omega)
    obtain rfl := status.isPending_iff.mp pending
    subst last
    rw [RetryPolicy.failure, if_pos pending, ← busyBegins_succ, ← number]
    exact .stillBusy
  · rw [RetryPolicy.failure, if_neg pending]
    exact .failed bound fun same => pending (status.isPending_iff.mpr same)

/-- What was said before an attempt: all those before it found the device busy. -/
structure RetryPolicy.HasFoundBusy (policy : RetryPolicy) (surface : S) (attempt : UInt32)
    (said : Dialogue S) : Prop where
  said : said = busyBegins surface (attempt.toNat - 1)
  positive : 0 < attempt.toNat
  bound : attempt.toNat - 1 < policy.maxAttempts.toNat

theorem RetryPolicy.HasFoundBusy.next {policy : RetryPolicy} {surface : S} {attempt : UInt32}
    {said : Dialogue S} (busy : policy.HasFoundBusy surface attempt said)
    (below : attempt < policy.maxAttempts) :
    policy.HasFoundBusy surface (attempt + 1)
      (said ++ [⟨.beginFrame surface, .failed .pending⟩]) := by
  have later := RetryPolicy.toNat_next below
  have fewer := UInt32.lt_iff_toNat_lt.mp below
  have positive := busy.positive
  refine ⟨?_, by omega, by omega⟩
  rw [busy.said, ← busyBegins_succ, Nat.sub_add_cancel busy.positive, later, Nat.add_sub_cancel]

theorem recording_grantsAttempts {policy : RetryPolicy} {lock : DeviceLock} {surface : S}
    {aborts : Dialogue S → Prop} :
    (recording aborts : Protocol S ν (Dialogue S)).GrantsAttempts policy lock surface
      (policy.HasFoundBusy surface) (BeginDialogue policy surface) where
  calls _ := trivial
  begins := by
    rintro _ _ ⟨rfl, _, bound⟩
    exact ⟨.began bound, trivial, .began bound⟩
  waits _ _ := ⟨trivial, trivial, trivial⟩
  wakes busy below := ⟨trivial, busy.next below⟩
  disturbed _ _ := nofun
  fails := by
    rintro _ _ _ ⟨rfl, positive, bound⟩ final
    exact ⟨trivial, trivial, failed_begin_speaks final (by omega) bound⟩
  panics := by
    rintro _ _ ⟨rfl, _, bound⟩ cause
    exact ⟨trivial, .panicked bound cause⟩

theorem begin_speaks {policy : RetryPolicy} {lock : DeviceLock} {surface : S}
    {aborts : Dialogue S → Prop} :
    (policy.begin lock surface : Action S ν Unit).run.Obeys (recording aborts)
      (BeginDialogue policy surface) [] :=
  begin_granted recording_grantsAttempts trivial
    ⟨rfl, Nat.one_pos, UInt32.lt_iff_toNat_lt.mp policy.positive⟩

/-! ### Submissions -/

theorem recording_ignoresLogs {aborts : Dialogue S → Prop} :
    (recording aborts : Protocol S ν (Dialogue S)).IgnoresLogs where
  allowed _ _ := trivial
  kept _ _ _ := rfl

/-- The conclusion of a submission agrees with the result that it computes. -/
theorem exists_conclusion {session : Session} {worked : Except Interruption Batch}
    {outcome : Outcome Unit}
    (survives : unwinds (worked.map fun _ => ()) = true → ∀ second, outcome ≠ .panicked second) :
    ∃ result, Conclusion worked outcome result ∧
      session.concluded (worked.map fun _ => ()) outcome =
        result.map fun _ => { session with framesSubmitted := session.framesSubmitted + 1 } := by
  rcases worked with (error | first) | batch
  · cases outcome with
    | ok _ => exact ⟨_, .workFailed error (.ok ()), rfl⟩
    | failed status => exact ⟨_, .workFailed error (.failed status), rfl⟩
    | panicked cause => exact ⟨_, .endPanickedLater error cause, rfl⟩
  · cases outcome with
    | ok _ => exact ⟨_, .workPanicked first (.ok ()), rfl⟩
    | failed status => exact ⟨_, .workPanicked first (.failed status), rfl⟩
    | panicked second => exact absurd rfl (survives rfl second)
  · cases outcome with
    | ok _ => exact ⟨_, .decoded batch, rfl⟩
    | failed status => exact ⟨_, .endFailed batch status, rfl⟩
    | panicked cause => exact ⟨_, .endPanicked batch cause, rfl⟩

/-- A submission ends with a dialogue that agrees with its result, and gives up only after one that
leaves no other way. -/
theorem submit_speaks {session : Session} {frame : Frame S ν} :
    (session.submit frame).run.Obeys (recording (AbortedDialogue session.retry frame))
      (fun said result => ∃ outcome, SubmissionDialogue session.retry frame said outcome ∧
        result = outcome.map fun _ =>
          { session with framesSubmitted := session.framesSubmitted + 1 }) [] := by
  apply submit_obeys recording_ignoresLogs begin_speaks
  · intro front interruption opening
    exact ⟨_, .notBegun opening, rfl⟩
  · intro front opening
    apply (execute_speaks _ front).weaken
    rintro _ _ ⟨work, rfl, worked, inOrder, rfl⟩
    refine { ended := trivial, freed := ?_, aborted := ?_ }
    · intro outcome survives
      obtain ⟨result, conclusion, same⟩ := exists_conclusion survives
      exact ⟨trivial, result, .ended opening inOrder conclusion, same⟩
    · intro unwound second
      rcases worked with (_ | first) | _ <;> cases unwound
      exact ⟨front, work, first, second, opening, inOrder, rfl⟩

end HardwareDecode
