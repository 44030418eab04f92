/-
Module: HardwareDecode.Proofs.Keeping
Purpose: What a protocol must grant so that a fact about its state is kept by the work on a frame
  and by a whole series of steps.  The rules are stated once for every protocol: whoever shows the
  fact of commits has it of executions, and whoever shows it of submissions has it of sessions.
Main exports: Program.Obeys.of_follows, Request.standsAlone, execute_keeps, performAll_keeps
-/
import HardwareDecode.Proofs.Protocol
import HardwareDecode.Session.Step

namespace HardwareDecode

variable {S ν τ α : Type} {protocol : Protocol S ν τ} {state : τ}

/-- A protocol that relies on no answers is obeyed along every trace. -/
theorem Program.Obeys.of_follows {ends : τ → α → Prop} {program rest : Program S ν α}
    {trace : List (Exchange S ν)} (relaxed : ∀ request answer, protocol.expects request answer)
    (obeys : program.Obeys protocol ends state) (followed : program.Follows trace rest) :
    rest.Obeys protocol ends (protocol.after state trace) := by
  induction followed generalizing state with
  | here => exact obeys
  | step _ inductionHypothesis =>
      exact inductionHypothesis ((obeys_ask.mp obeys).2 _ (relaxed _ _))

/-- Requests made in the work on a frame that are no part of a commit. -/
def Request.standsAlone : Request S ν → Prop
  | .call (.submitBuffers _) | .log _ | .note _ => True
  | _ => False

/-- A request is allowed wherever a fact holds, and keeps it. -/
def Protocol.Grants (protocol : Protocol S ν τ) (kept : τ → Prop) (request : Request S ν) : Prop :=
  ∀ {state}, kept state → protocol.allows state request ∧
    ∀ answer, kept (protocol.next state request answer)

open HardwareDecode.Action

section

variable {kept : τ → Prop}

/-- Commits keep a fact, and so does everything else with which a batch is put together. -/
structure Protocol.KeepsAssembly (protocol : Protocol S ν τ) (kept : τ → Prop) : Prop where
  commits : ∀ {state} kind payload macroblocks, kept state →
    (commit kind payload macroblocks : Action S ν Descriptor).run.Obeys protocol
      (fun after _ => kept after) state
  stages : ∀ stage, protocol.Grants kept (.log (.stageFailed stage))
  notes : ∀ mark, protocol.Grants kept (.note mark)

/-- Commits keep a fact, and so does every other request of the work on a frame. -/
structure Protocol.KeepsWork (protocol : Protocol S ν τ) (kept : τ → Prop) : Prop where
  commits : ∀ {state} kind payload macroblocks, kept state →
    (commit kind payload macroblocks : Action S ν Descriptor).run.Obeys protocol
      (fun after _ => kept after) state
  others : ∀ request, request.standsAlone → protocol.Grants kept request

theorem Protocol.KeepsWork.keepsAssembly (work : protocol.KeepsWork kept) :
    protocol.KeepsAssembly kept where
  commits := work.commits
  stages stage := work.others (.log (.stageFailed stage)) trivial
  notes mark := work.others (.note mark) trivial

section

variable (assembly : protocol.KeepsAssembly kept)

include assembly

theorem onFailure_keeps {stage : Stage} {action : Action S ν α}
    (keeps : action.run.Obeys protocol (fun after _ => kept after) state) :
    (action.onFailure (.stageFailed stage)).run.Obeys protocol (fun after _ => kept after)
      state := by
  apply obeys_onFailure.mpr
  apply keeps.weaken
  intro after result holds
  rcases result with (error | cause) | value
  · obtain ⟨allowed, later⟩ := assembly.stages stage holds
    exact ⟨allowed, fun answer _ => later answer⟩
  · exact holds
  · exact holds

theorem add_keeps {batch : Batch} {kind : BufferKind} {payload : Bytes} {macroblocks : UInt32}
    (holds : kept state) :
    (batch.add kind payload macroblocks : Action S ν _).run.Obeys protocol
      (fun after _ => kept after) state := by
  rw [Batch.add, obeys_bind, obeys_attempt]
  apply (assembly.commits kind payload macroblocks holds).weaken
  intro after result holds
  rcases result with (error | cause) | descriptor
  · exact obeys_pure.mpr holds
  · exact holds
  · exact obeys_pure.mpr holds

theorem require_keeps {batch : Batch} {kind : BufferKind} {payload : Bytes} {macroblocks : UInt32}
    (holds : kept state) :
    (batch.require kind payload macroblocks : Action S ν Batch).run.Obeys protocol
      (fun after _ => kept after) state := by
  rw [Batch.require, obeys_bind]
  apply (add_keeps assembly holds).weaken
  intro after result holds
  rcases result with interruption | ⟨_ | descriptor, later⟩
  · exact holds
  · exact obeys_fail.mpr holds
  · exact obeys_pure.mpr holds

theorem assemble_keeps {assembler : Assembler ν} {batch : Batch} (holds : kept state) :
    (assembler.assemble batch : Action S ν Batch).run.Obeys protocol (fun after _ => kept after)
      state := by
  induction assembler generalizing batch state with
  | finish => exact obeys_pure.mpr holds
  | fail error => exact obeys_fail.mpr holds
  | panic cause => exact obeys_panic.mpr holds
  | commit kind payload macroblocks next inductionHypothesis =>
      rw [Assembler.assemble, obeys_bind]
      apply (add_keeps assembly holds).weaken
      intro after result holds
      rcases result with interruption | ⟨answer, later⟩
      · exact holds
      · exact inductionHypothesis answer holds
  | inspect next inductionHypothesis => exact inductionHypothesis batch.descriptors holds
  | note mark next inductionHypothesis =>
      rw [Assembler.assemble, obeys_bind, obeys_note]
      obtain ⟨allowed, later⟩ := assembly.notes mark holds
      exact ⟨allowed, fun answer _ => inductionHypothesis (later answer)⟩

theorem requireMatrix_keeps {frame : Frame S ν} {batch : Batch} (holds : kept state) :
    (frame.requireMatrix batch).run.Obeys protocol (fun after _ => kept after) state := by
  unfold Frame.requireMatrix
  split
  · exact obeys_pure.mpr holds
  · exact onFailure_keeps assembly (require_keeps assembly holds)

theorem frame_assemble_keeps {frame : Frame S ν} (holds : kept state) :
    frame.assemble.run.Obeys protocol (fun after _ => kept after) state := by
  rw [Frame.assemble, obeys_bind]
  apply (onFailure_keeps assembly (require_keeps assembly holds)).weaken
  intro between result holds
  cases result with
  | error interruption => exact holds
  | ok batch =>
      apply obeys_bind.mpr
      apply (requireMatrix_keeps assembly holds).weaken
      intro between result holds
      cases result with
      | error interruption => exact holds
      | ok batch => exact onFailure_keeps assembly (assemble_keeps assembly holds)

end

section

variable (work : protocol.KeepsWork kept)

include work

theorem frame_submit_keeps {batch : Batch} (holds : kept state) :
    (Frame.submit batch : Action S ν Unit).run.Obeys protocol (fun after _ => kept after)
      state := by
  rw [Frame.submit, obeys_bind, obeys_call]
  obtain ⟨allowed, later⟩ := work.others (.call (.submitBuffers batch.descriptors)) trivial holds
  refine ⟨allowed, fun outcome _ => ?_⟩
  have kept := later outcome
  cases outcome with
  | ok _ => exact obeys_pure.mpr kept
  | failed status =>
      obtain ⟨allowed, later⟩ := work.others (.log (.executeFailed status)) trivial kept
      exact obeys_bind.mpr (obeys_log.mpr ⟨allowed, fun answer _ => obeys_fail.mpr (later answer)⟩)
  | panicked cause => exact kept

/-- What commits keep is kept by the whole work on a frame. -/
theorem execute_keeps {frame : Frame S ν} (holds : kept state) :
    frame.execute.run.Obeys protocol (fun after _ => kept after) state := by
  rw [Frame.execute, obeys_bind]
  apply (frame_assemble_keeps work.keepsAssembly holds).weaken
  intro after result holds
  cases result with
  | error interruption => exact holds
  | ok batch =>
      simp only
      cases batch.check frame.batchSize with
      | error cause => exact obeys_panic.mpr holds
      | ok _ => exact frame_submit_keeps work holds

end

end

section

variable {kept : τ → Prop} {steps : List (Session.Step S ν)}

theorem perform_keeps {session : Session} {step : Session.Step S ν}
    (submits : ∀ frame, step = .submit frame → ∀ {state}, kept state →
      (session.submit frame).run.Obeys protocol (fun after _ => kept after) state)
    (queries : ∀ query, protocol.Grants kept (.query query)) (holds : kept state) :
    (session.perform step).Obeys protocol (fun after _ => kept after) state := by
  cases step with
  | submit frame =>
      rw [Session.perform, Program.obeys_bind]
      apply (submits frame rfl holds).weaken
      intro after result holds
      cases result <;> exact Program.obeys_done.mpr holds
  | setRetry policy => exact Program.obeys_done.mpr holds
  | surfaceIndex surface =>
      rw [Session.perform, Program.obeys_bind, Session.surfaceIndex, Program.obeys_bind,
        Program.obeys_request]
      obtain ⟨allowed, later⟩ := queries (.surfaceIndex surface) holds
      refine ⟨allowed, fun index _ => ?_⟩
      have kept := later index
      cases index <;> exact Program.obeys_done.mpr (Program.obeys_done.mpr kept)
  | info =>
      rw [Session.perform, Program.obeys_bind, Program.obeys_request]
      obtain ⟨allowed, later⟩ := queries .kind holds
      refine ⟨allowed, fun kind _ => ?_⟩
      obtain ⟨still, last⟩ := queries .kind (later kind)
      rw [Program.obeys_bind, Program.obeys_request]
      exact ⟨still, fun asked _ => Program.obeys_done.mpr (last asked)⟩

/-- What every submission keeps is kept by a session, whatever steps it does. -/
theorem performAll_keeps {session : Session}
    (submits : ∀ frame, .submit frame ∈ steps → ∀ (session : Session) {state}, kept state →
      (session.submit frame).run.Obeys protocol (fun after _ => kept after) state)
    (queries : ∀ query, protocol.Grants kept (.query query)) (holds : kept state) :
    (session.performAll steps).Obeys protocol (fun after _ => kept after) state := by
  induction steps generalizing session state with
  | nil => exact Program.obeys_done.mpr holds
  | cons step steps inductionHypothesis =>
      rw [Session.performAll, Program.obeys_bind]
      have first : ∀ frame, step = .submit frame → ∀ {state}, kept state →
          (session.submit frame).run.Obeys protocol (fun after _ => kept after) state := by
        rintro frame rfl
        exact submits frame (List.mem_cons_self ..) session
      apply (perform_keeps first queries holds).weaken
      rintro between ⟨result, after⟩ holds
      simp only
      rw [Program.obeys_bind]
      have others := fun frame member => submits frame (List.mem_cons_of_mem _ member)
      have later : (after.performAll steps).Obeys protocol (fun last _ => kept last) between :=
        inductionHypothesis others holds
      exact later.weaken fun _ _ kept => Program.obeys_done.mpr kept

end

end HardwareDecode
