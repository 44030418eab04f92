/-
Module: HardwareDecode.Proofs.ErrorLogging
Purpose: Whoever fails has logged an error.  The parts of a submission either log an error before
  they fail or pass on the failure of a part that has done so.
Main exports: raising, raising_after, Raised, submit_raises
-/
import HardwareDecode.Proofs.FailureMessages
import HardwareDecode.Proofs.Submission

namespace HardwareDecode

variable {S ν α : Type}

open HardwareDecode.Action

/-- A program obeys whoever allows everything. -/
theorem Program.obeys_of_permissive {τ : Type} {protocol : Protocol S ν τ} {state : τ}
    (permissive : ∀ state request, protocol.allows state request) (program : Program S ν α) :
    program.Obeys protocol (fun _ _ => True) state := by
  induction program generalizing state with
  | done value => exact Program.obeys_done.mpr trivial
  | ask request resume inductionHypothesis =>
      exact Program.obeys_ask.mpr
        ⟨permissive state request, fun answer _ => inductionHypothesis answer⟩

def Request.raises (request : Request S ν) : Bool :=
  request.record?.any fun record => record.level == .error

/-- Whether an error has been logged. -/
def raising : Protocol S ν Bool where
  allows _ _ := True
  next raised request _ := raised || request.raises

theorem raising_after {raised : Bool} (trace : List (Exchange S ν)) :
    raising.after raised trace =
      (raised || (records trace).any fun record => record.level == .error) := by
  induction trace generalizing raised with
  | nil => simp [Protocol.after, records]
  | cons exchange trace inductionHypothesis =>
      refine inductionHypothesis.trans ?_
      simp only [raising, Request.raises, records, List.filterMap_cons]
      cases exchange.request.record? with
      | none => simp
      | some record => simp [Bool.or_assoc]

/-- No failure comes without an error. -/
abbrev Raised (raised : Bool) (result : Except Interruption α) : Prop :=
  ∀ error, result = .error (.failure error) → raised = true

theorem onFailure_raises {record : LogRecord} (level : record.level = .error)
    {action : Action S ν α} {raised : Bool} :
    (action.onFailure record).run.Obeys raising Raised raised := by
  apply obeys_onFailure.mpr
  apply (action.run.obeys_of_permissive fun _ _ => trivial).weaken
  intro after result _
  rcases result with (error | cause) | value
  · refine ⟨trivial, fun _ _ _ _ => ?_⟩
    simp [raising, Request.raises, Request.record?, level]
  · exact nofun
  · exact nofun

theorem bind_raises {β : Type} {action : Action S ν α} {next : α → Action S ν β} {raised : Bool}
    (first : action.run.Obeys raising Raised raised)
    (rest : ∀ value raised, (next value).run.Obeys raising Raised raised) :
    (action >>= next).run.Obeys raising Raised raised := by
  apply obeys_bind.mpr
  apply first.weaken
  intro after result holds
  cases result with
  | ok value => exact rest value after
  | error interruption =>
      intro error same
      cases same
      exact holds error rfl

theorem execute_raises {frame : Frame S ν} {raised : Bool} :
    frame.execute.run.Obeys raising Raised raised := by
  apply bind_raises
  · apply bind_raises (onFailure_raises rfl)
    intro batch between
    apply bind_raises
    · unfold Frame.requireMatrix
      split
      · exact obeys_pure.mpr nofun
      · exact onFailure_raises rfl
    · exact fun _ _ => onFailure_raises rfl
  · intro batch between
    cases batch.check frame.batchSize with
    | error cause => exact obeys_panic.mpr nofun
    | ok _ =>
        rw [Frame.submit, obeys_bind, obeys_call]
        refine ⟨trivial, fun outcome _ => ?_⟩
        cases outcome with
        | ok _ => exact obeys_pure.mpr nofun
        | failed status =>
            apply obeys_bind.mpr
            exact obeys_log.mpr ⟨trivial, fun _ _ => obeys_fail.mpr fun _ _ => Bool.or_true _⟩
        | panicked cause => exact nofun

theorem raising_grantsAttempts {policy : RetryPolicy} {lock : DeviceLock} {surface : S} :
    (raising : Protocol S ν Bool).GrantsAttempts policy lock surface (fun _ _ => True) Raised where
  calls _ := trivial
  begins _ := ⟨nofun, trivial, nofun⟩
  waits _ _ := ⟨trivial, trivial, trivial⟩
  wakes _ _ := ⟨trivial, trivial⟩
  disturbed _ _ _ := nofun
  fails _ _ := ⟨trivial, trivial, fun _ _ => Bool.or_true _⟩
  panics _ _ := ⟨trivial, nofun⟩

theorem raising_ignoresFrees : (raising : Protocol S ν Bool).IgnoresFrees where
  allowed _ _ _ := trivial
  kept raised _ _ := Bool.or_false raised

theorem close_raises {session : Session} {raised : Bool} {executed : Except Interruption Unit}
    (holds : Raised raised executed) (outcome : Outcome Unit) :
    (session.close executed outcome : Program S ν _).Obeys raising Raised raised := by
  apply raising_ignoresFrees.obeys_close
  · exact fun _ _ _ _ => ⟨trivial, fun _ _ => Bool.or_true raised⟩
  · exact fun _ _ => ⟨trivial, nofun⟩
  · intro interruption unfailed concluded error same
    rw [same] at concluded
    apply holds error
    rcases executed with (_ | _) | _ <;> rcases outcome with _ | status | _ <;> cases concluded
    · rfl
    · rfl
    · exact absurd rfl (unfailed status)
  · exact fun _ _ => trivial

theorem submit_raises {session : Session} {frame : Frame S ν} :
    (session.submit frame).run.Obeys raising Raised false := by
  have begins : (session.retry.begin session.lock frame.surface : Action S ν Unit).run.Obeys
      raising Raised false :=
    begin_granted raising_grantsAttempts trivial trivial
  apply submit_obeys_closing begins
  · intro after interruption holds error same
    cases same
    exact holds error rfl
  · intro opened _
    apply execute_raises.weaken
    intro worked executed holds
    refine ⟨trivial, fun outcome _ => ?_⟩
    have still : raising.next worked (.call .endFrame : Request S ν) outcome = worked :=
      Bool.or_false worked
    rw [still]
    exact close_raises holds outcome

end HardwareDecode
