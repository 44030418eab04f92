/-
Module: HardwareDecode.Proofs.FailureReports
Purpose: No failure of the driver is silent.  Each failing call is followed, before the next call,
  by one message that names what failed and ends in the status, unless it was a begin that found the
  device busy and was made again; and whoever fails has logged an error.
Main exports: Arrears, reporting, failing_records_of_reaches, submit_reports,
  Backend.ReportsFailures, driver_failures_are_reported
-/
import HardwareDecode.Proofs.ErrorLogging
import HardwareDecode.Proofs.FrameBracket
import HardwareDecode.Proofs.Keeping

namespace HardwareDecode

variable {S ν σ ο α : Type}

/-! ### The order of failures and messages -/

/-- Which failure is still to be reported. -/
inductive Arrears (S : Type) where
  /-- No begin was answered yet. -/
  | unbegun
  /-- Nothing is to be reported, and no begin comes any more. -/
  | settled
  | due (failed : Answered S)

namespace Arrears

def unreported : Arrears S → Dialogue S
  | due failed => [failed]
  | _ => []

/-- The driver may be called once nothing is to be reported, or again if it was busy. -/
def allowsCall (call : Call S) : Arrears S → Prop
  | unbegun => call.isBegin = true
  | settled => call.isBegin = false
  | due failed => failed.foundBusy = true ∧ call.isBegin = true

/-- Messages about failures must be due. -/
def allows (state : Arrears S) : Request S ν → Prop
  | .call call => state.allowsCall call
  | .log record =>
      ∀ failing, record.failing? = some failing →
        ∃ failed, state = due failed ∧ failed.failing? = some failing
  | .abort => state = settled
  | _ => True

def next (state : Arrears S) : (request : Request S ν) → request.Answer → Arrears S
  | .call call, .failed status => due ⟨call, .failed status⟩
  | .call _, _ => settled
  | .log record, _ => if record.failing?.isSome then settled else state
  | _, _ => state

end Arrears

/-- The rule of those who report every failure before they go on.  Waits are relied on to end. -/
def reporting : Protocol S ν (Arrears S) where
  expects
    | .sleep _, answer => answer = .ok ()
    | _, _ => True
  allows := Arrears.allows
  next := Arrears.next

theorem Backend.keepsStep_reporting (backend : Backend S σ ο) :
    (backend.environment : Environment S ν (World σ) (Entry ο ν)).KeepsStep reporting
      fun _ _ => True := by
  intro state world request served _ _ answered
  refine ⟨?_, trivial⟩
  cases request with
  | sleep nanoseconds =>
      cases answered
      rfl
  | _ => trivial

/-- The driver call that a program makes next. -/
def Program.call? : Program S ν α → Option (Call S)
  | .ask (.call call) _ => some call
  | _ => none

section

variable {ends : Arrears S → α → Prop} {program rest : Program S ν α} {backend : Backend S σ ο}
  {world after : World σ} {trace : List (Exchange S ν)} {journal : List (Entry ο ν)}

/-- Where nothing is to be reported any more, no begin follows. -/
theorem following_of_settled (obeys : program.Obeys reporting ends .settled)
    (reached : backend.environment.Reaches program world trace journal rest after) :
    (following (driverCalls trace) rest.call?).any Call.isBegin = false := by
  induction reached with
  | here program world =>
      cases program with
      | done value => rfl
      | ask request resume =>
          cases request with
          | call call => exact (Program.obeys_ask.mp obeys).1
          | _ => rfl
  | @step request resume world served trace journal rest after answered tail
      inductionHypothesis =>
      obtain ⟨allowed, later⟩ := Program.obeys_ask.mp obeys
      obtain ⟨expected, _⟩ := backend.keepsStep_reporting trivial allowed answered
      have goesOn := later served.answer expected
      cases request with
      | call call => exact allowed
      | log record =>
          have still : reporting.next .settled (.log record : Request S ν) served.answer =
              .settled := ite_self _
          exact inductionHypothesis (still ▸ goesOn)
      | abort => exact nomatch served.answer
      | _ => exact inductionHypothesis goesOn

/-- What is not reported before a call is a begin that is made again. -/
theorem Arrears.failures_unreported {state : Arrears S} {call : Call S}
    (allowed : state.allowsCall call) {later : Dialogue S} {next : Option (Call S)}
    (follows : following later next = some call) :
    failures (state.unreported ++ later) next = failures later next := by
  cases state with
  | unbegun | settled => rfl
  | due failed =>
      obtain ⟨busy, again⟩ := allowed
      apply failures_cons_of_retried busy
      rw [List.append_eq, List.nil_append, follows]
      exact again

/-- After a call it is to be reported that it failed. -/
theorem Arrears.failures_next (state : Arrears S) {call : Call S} (outcome : Outcome call.Answer)
    (later : Dialogue S) (next : Option (Call S)) :
    failures ((state.next (.call call : Request S ν) outcome).unreported ++ later) next =
      failures (⟨call, outcome⟩ :: later) next := by
  cases outcome with
  | failed status => rfl
  | ok _ | panicked _ => exact (failures_cons_of_fine rfl later next).symm

/-- The messages about failures, and what is still to be reported, are the failures of what was
said, in the same order. -/
theorem failing_records_of_reaches {state : Arrears S}
    (obeys : program.Obeys reporting ends state)
    (reached : backend.environment.Reaches program world trace journal rest after) :
    (records trace).filterMap LogRecord.failing? ++
        failures (reporting.after state trace).unreported rest.call? =
      failures (state.unreported ++ driverCalls trace) rest.call? := by
  induction reached generalizing state with
  | here program world =>
      rw [driverCalls, List.filterMap_nil, List.append_nil]
      rfl
  | @step request resume world served trace journal rest after answered tail
      inductionHypothesis =>
      obtain ⟨allowed, later⟩ := Program.obeys_ask.mp obeys
      obtain ⟨expected, _⟩ := backend.keepsStep_reporting trivial allowed answered
      have goesOn := later served.answer expected
      have reported := inductionHypothesis goesOn
      cases request with
      | call call =>
          let answered : Answered S := ⟨call, served.answer⟩
          have follows : following (answered :: driverCalls trace) rest.call? = some call := rfl
          calc
            _ = failures (answered :: driverCalls trace) rest.call? :=
              reported.trans (state.failures_next served.answer _ _)
            _ = failures (state.unreported ++ answered :: driverCalls trace) rest.call? :=
              (Arrears.failures_unreported allowed follows).symm
      | log record =>
          let exchange : Exchange S ν := ⟨.log record, served.answer⟩
          have logged : records (exchange :: trace) = record :: records trace := rfl
          have unsaid : driverCalls (exchange :: trace) = driverCalls trace := rfl
          have next : reporting.after state (exchange :: trace) =
              reporting.after (reporting.next state exchange.request served.answer) trace := rfl
          rw [logged, unsaid, next]
          cases about : record.failing? with
          | none =>
              have still : reporting.next state exchange.request served.answer = state :=
                if_neg (by simp [about])
              rw [still] at reported ⊢
              rw [List.filterMap_cons_none about, reported]
          | some failing =>
              obtain ⟨failed, rfl, named⟩ := allowed failing about
              have settles : reporting.next (.due failed) exchange.request served.answer =
                  .settled := if_pos (by simp [about])
              rw [settles] at goesOn reported ⊢
              have final := following_of_settled goesOn tail
              rw [List.filterMap_cons_some about, List.cons_append, reported]
              exact ((failures_cons_of_final final).trans (by rw [named]; rfl)).symm
      | abort => exact Empty.elim served.answer
      | _ => exact reported

end

/-! ### Submissions report their failures -/

section

variable {state : Arrears S}

/-- A message that is not about a failure may come at any time. -/
theorem reporting_remark {record : LogRecord} {ends : Arrears S → Unit → Prop}
    (remark : record.failing? = none) (holds : ends state ()) :
    (Program.request (.log record) : Program S ν Unit).Obeys reporting ends state := by
  refine Program.obeys_ask.mpr ⟨?_, fun _ _ => ?_⟩
  · intro failing about
    rw [remark] at about
    cases about
  · have still : reporting.next state (.log record : Request S ν) () = state :=
      if_neg (by simp [remark])
    rw [still]
    exact Program.obeys_done.mpr holds

/-- The message about a failure settles it. -/
theorem reporting_report {record : LogRecord} {failed : Answered S}
    {ends : Arrears S → Unit → Prop} (about : record.failing? = failed.failing?)
    (fails : failed.failing?.isSome = true) (holds : ends .settled ()) :
    (Program.request (.log record) : Program S ν Unit).Obeys reporting ends (.due failed) := by
  refine Program.obeys_ask.mpr ⟨?_, fun _ _ => ?_⟩
  · intro failing named
    exact ⟨failed, rfl, about ▸ named⟩
  · have settles : reporting.next (.due failed) (.log record : Request S ν) () = .settled :=
      if_pos (by rw [about]; exact fails)
    rw [settles]
    exact Program.obeys_done.mpr holds

end

open HardwareDecode.Action

theorem fill_reports {kind : BufferKind} {payload lent : Bytes} {macroblocks : UInt32} :
    (fill kind payload lent macroblocks : Action S ν Descriptor).run.Obeys reporting
      (fun after result => after = .settled ∧ unwinds result = false) .settled := by
  unfold fill
  split
  · apply obeys_bind.mpr
    refine obeys_store.mpr ⟨trivial, fun _ _ => ?_⟩
    apply obeys_bind.mpr
    apply Program.obeys_bind.mpr
    exact reporting_remark rfl (Program.obeys_done.mpr (obeys_pure.mpr ⟨rfl, rfl⟩))
  · apply obeys_bind.mpr
    apply Program.obeys_bind.mpr
    exact reporting_remark rfl (Program.obeys_done.mpr (obeys_fail.mpr ⟨rfl, rfl⟩))

theorem commit_reports {kind : BufferKind} {payload : Bytes} {macroblocks : UInt32} :
    (commit kind payload macroblocks : Action S ν Descriptor).run.Obeys reporting
      (fun after _ => after = .settled) .settled := by
  rw [commit, obeys_bind, obeys_call]
  refine ⟨rfl, fun got _ => ?_⟩
  cases got with
  | failed status =>
      apply obeys_bind.mpr
      apply Program.obeys_bind.mpr
      exact reporting_report rfl rfl (Program.obeys_done.mpr (obeys_fail.mpr rfl))
  | panicked cause => rfl
  | ok lent =>
      apply obeys_bind.mpr
      apply obeys_attempt.mpr
      apply fill_reports.weaken
      intro after filled kept
      obtain ⟨settled, returns⟩ := kept
      rw [settled]
      rcases filled with (error | cause) | descriptor
      case error.panic => cases returns
      all_goals
        refine obeys_bind.mpr (obeys_call.mpr ⟨rfl, fun released _ => ?_⟩)
        cases released with
        | ok _ => exact Program.obeys_done.mpr rfl
        | failed status =>
            apply obeys_bind.mpr
            apply Program.obeys_bind.mpr
            exact reporting_report rfl rfl (Program.obeys_done.mpr (obeys_fail.mpr rfl))
        | panicked cause => rfl

theorem reporting_keepsAssembly :
    (reporting : Protocol S ν (Arrears S)).KeepsAssembly fun state => state = .settled where
  commits := by
    intro state kind payload macroblocks settled
    rw [settled]
    exact commit_reports
  stages := by
    intro stage state settled
    exact ⟨nofun, fun _ => settled⟩
  notes := by
    intro mark state settled
    exact ⟨trivial, fun _ => settled⟩

theorem execute_reports {frame : Frame S ν} :
    frame.execute.run.Obeys reporting (fun after _ => after = .settled) .settled := by
  rw [Frame.execute, obeys_bind]
  apply (frame_assemble_keeps reporting_keepsAssembly rfl).weaken
  intro after assembled settled
  rw [settled]
  cases assembled with
  | error interruption => rfl
  | ok batch =>
      simp only
      cases batch.check frame.batchSize with
      | error cause => exact obeys_panic.mpr rfl
      | ok _ =>
          rw [Frame.submit, obeys_bind, obeys_call]
          refine ⟨rfl, fun outcome _ => ?_⟩
          cases outcome with
          | ok _ => exact obeys_pure.mpr rfl
          | failed status =>
              apply obeys_bind.mpr
              apply Program.obeys_bind.mpr
              exact reporting_report rfl rfl (Program.obeys_done.mpr (obeys_fail.mpr rfl))
          | panicked cause => rfl

/-- Every attempt is followed by another one or by the report of its failure. -/
theorem reporting_grantsAttempts {policy : RetryPolicy} {lock : DeviceLock} {surface : S} :
    (reporting : Protocol S ν (Arrears S)).GrantsAttempts policy lock surface
      (fun _ state => state.allowsCall (.beginFrame surface))
      (fun after _ => after = .settled) where
  calls allowed := allowed
  begins _ := ⟨rfl, nofun, rfl⟩
  waits _ _ := ⟨nofun, trivial, trivial⟩
  wakes _ _ := ⟨trivial, rfl, rfl⟩
  disturbed _ _ := nofun
  fails _ _ := ⟨trivial, fun _ same => ⟨_, rfl, same⟩, rfl⟩
  panics _ _ := ⟨trivial, rfl⟩

theorem reporting_ignoresFrees : (reporting : Protocol S ν (Arrears S)).IgnoresFrees where
  allowed _ _ _ := trivial
  kept _ _ _ := rfl

theorem close_reports {session : Session} (executed : Except Interruption Unit)
    (outcome : Outcome Unit) :
    (session.close executed outcome : Program S ν _).Obeys reporting
      (fun after _ => after = .settled)
      (reporting.next .settled (.call .endFrame : Request S ν) outcome) := by
  apply reporting_ignoresFrees.obeys_close
  · rintro status _ rfl _
    exact ⟨fun _ same => ⟨_, rfl, same⟩, rfl⟩
  · rintro _ rfl
    exact ⟨nofun, rfl⟩
  · intro _ ended _
    cases outcome with
    | ok _ | panicked _ => rfl
    | failed status => exact absurd rfl (ended status)
  · rintro second rfl
    rfl

theorem submit_reports {session : Session} {frame : Frame S ν} :
    (session.submit frame).run.Obeys reporting (fun after _ => after = .settled) .unbegun := by
  have begins : (session.retry.begin session.lock frame.surface : Action S ν Unit).run.Obeys
      reporting (fun after _ => after = .settled) .unbegun :=
    begin_granted reporting_grantsAttempts trivial rfl
  apply submit_obeys_closing begins
  · intro _ _ settled
    exact settled
  · intro opened settled
    rw [settled]
    apply execute_reports.weaken
    intro worked executed settled
    rw [settled]
    exact ⟨rfl, fun outcome _ => close_reports executed outcome⟩

/-! ### Every failure is reported -/

/-- A frame is ended at most once, so there is at most one failure to do so. -/
theorem Bracketed.failedEnds {dialogue : Dialogue S} (bracketed : Bracketed dialogue)
    {status : Status} (member : (⟨.endFrame, .failed status⟩ : Answered S) ∈ dialogue) :
    dialogue.filterMap Answered.failedEnd? = [status] := by
  have counted : status ∈ dialogue.filterMap Answered.failedEnd? :=
    List.mem_filterMap.mpr ⟨_, member, rfl⟩
  have beginsFail {attempts : Dialogue S} (failed : ∀ attempt ∈ attempts, attempt.FailsToBegin) :
      attempts.filterMap Answered.failedEnd? = [] := by
    apply List.filterMap_eq_nil_iff.mpr
    intro attempt made
    obtain ⟨surface, outcome, _, rfl⟩ := failed attempt made
    rfl
  cases bracketed with
  | unopened failed =>
      rw [beginsFail failed] at counted
      cases counted
  | @closed attempts work failed surface inside outcome =>
      have works : work.filterMap Answered.failedEnd? = [] := by
        apply List.filterMap_eq_nil_iff.mpr
        rintro ⟨call, answer⟩ made
        cases call with
        | endFrame => exact False.elim (inside _ made)
        | _ => rfl
      rw [List.filterMap_append, List.filterMap_append, List.filterMap_append,
        beginsFail failed, works] at counted ⊢
      cases outcome with
      | ok _ | panicked _ => cases counted
      | failed other =>
          obtain rfl := List.mem_singleton.mp counted
          rfl

/-- A submission that is given up is still bracketed. -/
theorem AbortedDialogue.bracketed {policy : RetryPolicy} {frame : Frame S ν}
    {dialogue : Dialogue S} (said : AbortedDialogue policy frame dialogue) :
    Bracketed dialogue := by
  obtain ⟨front, work, first, second, opening, inOrder, rfl⟩ := said
  cases opening with
  | began => exact .closed busyBegins_fail frame.surface (inOrder.works Frame.stages_work) _

/-- A program that is over: it is finished, or gives everything up. -/
def Program.IsOver : Program S ν α → Prop
  | .done _ | .ask .abort _ => True
  | _ => False

/-- The errors that end in a status are the failures of the driver's calls in their order, and each
comes before the next call.  In the end the one failure to end the frame is among them once, and
whoever fails has logged some error. -/
structure Backend.ReportsFailures (backend : Backend S σ ο) (session : Session)
    (frame : Frame S ν) (world : World σ) : Prop where
  timely : ∀ {trace journal call resume after},
    backend.environment.Reaches (session.submit frame).run world trace journal
        (.ask (.call call) resume) after →
      List.Forall₂ LogRecord.Reports (statusErrors trace)
        (failures (driverCalls trace) (some call))
  complete : ∀ {trace journal rest after},
    backend.environment.Reaches (session.submit frame).run world trace journal rest after →
      rest.IsOver →
        List.Forall₂ LogRecord.Reports (statusErrors trace) (failures (driverCalls trace) none)
  endOnce : ∀ {trace journal rest after},
    backend.environment.Reaches (session.submit frame).run world trace journal rest after →
      rest.IsOver → ∀ status, (⟨.endFrame, .failed status⟩ : Answered S) ∈ driverCalls trace →
        (records trace).filter LogRecord.reportsEnd = [.endFailed status]
  raised : ∀ {trace journal error after},
    backend.environment.Reaches (session.submit frame).run world trace journal
        (.done (.error (.failure error))) after →
      ∃ record ∈ records trace, record.level = .error
  stops : world.locks.isFree session.lock = true →
    ∃ trace journal rest after,
      backend.environment.Reaches (session.submit frame).run world trace journal rest after ∧
        rest.IsOver

section

variable {backend : Backend S σ ο} {session : Session} {frame : Frame S ν} {world after : World σ}
  {trace : List (Exchange S ν)} {journal : List (Entry ο ν)}
  {rest : Program S ν (Except Interruption Session)}

/-- Where a submission comes to, the messages about failures are those that are due. -/
theorem reports_of_reaches
    (reached : backend.environment.Reaches (session.submit frame).run world trace journal rest
      after)
    (settled : failures (reporting.after .unbegun trace).unreported rest.call? = []) :
    List.Forall₂ LogRecord.Reports (statusErrors trace)
      (failures (driverCalls trace) rest.call?) := by
  have same := failing_records_of_reaches submit_reports reached
  rw [settled, List.append_nil] at same
  have reports := reports_failing (records trace)
  rw [same] at reports
  exact reports

/-- Nothing is left to be reported when a submission is over. -/
theorem settled_of_isOver
    (reached : backend.environment.Reaches (session.submit frame).run world trace journal rest
      after)
    (isOver : rest.IsOver) : reporting.after .unbegun trace = .settled ∧ rest.call? = none := by
  obtain ⟨obeys, _⟩ := submit_reports.of_reaches backend.keepsStep_reporting trivial reached
  cases rest with
  | done result =>
      have settled := Program.obeys_done.mp obeys
      exact ⟨settled, rfl⟩
  | ask request resume =>
      cases request with
      | abort => exact ⟨(Program.obeys_ask.mp obeys).1, rfl⟩
      | _ => exact False.elim isOver

theorem bracketed_of_isOver
    (reached : backend.environment.Reaches (session.submit frame).run world trace journal rest
      after)
    (isOver : rest.IsOver) : Bracketed (driverCalls trace) := by
  have spoken := submit_speaks.of_reaches_recording reached
  cases rest with
  | done result =>
      obtain ⟨outcome, said, _⟩ := Program.obeys_done.mp spoken
      exact said.bracketed
  | ask request resume =>
      cases request with
      | abort => exact (Program.obeys_ask.mp spoken).1.bracketed
      | _ => exact False.elim isOver

end

theorem driver_failures_are_reported (backend : Backend S σ ο) (session : Session)
    (frame : Frame S ν) (world : World σ) : backend.ReportsFailures session frame world := by
  constructor
  · intro trace journal call resume after reached
    obtain ⟨obeys, _⟩ := submit_reports.of_reaches backend.keepsStep_reporting trivial reached
    have allowed : (reporting.after .unbegun trace).allowsCall call :=
      (Program.obeys_ask.mp obeys).1
    have settled := Arrears.failures_unreported allowed (show following [] (some call) = _ from rfl)
    rw [List.append_nil] at settled
    exact reports_of_reaches reached settled
  · intro trace journal rest after reached isOver
    obtain ⟨settled, last⟩ := settled_of_isOver reached isOver
    have reports := reports_of_reaches reached (by rw [settled]; rfl)
    rw [last] at reports
    exact reports
  · intro trace journal rest after reached isOver status ended
    obtain ⟨settled, last⟩ := settled_of_isOver reached isOver
    have same := failing_records_of_reaches submit_reports reached
    have none : failures (Arrears.settled.unreported : Dialogue S) rest.call? = [] := rfl
    rw [settled, none, List.append_nil] at same
    rw [filter_reportsEnd, same]
    have ends := failures_endStatus (driverCalls trace) rest.call?
    rw [(bracketed_of_isOver reached isOver).failedEnds ended] at ends
    exact congrArg _ ends
  · intro trace journal error after reached
    have raises := Program.obeys_done.mp
      (submit_raises.of_follows (fun _ _ => trivial) reached.follows)
    have raised := raises error rfl
    rw [raising_after, Bool.false_or, List.any_eq_true] at raised
    obtain ⟨record, logged, level⟩ := raised
    exact ⟨record, logged, beq_iff_eq.mp level⟩
  · intro free
    have framed : (session.submit frame).run.Obeys (framing session.lock) _ .idle := submit_framed
    obtain ⟨trace, journal, rest, after, reached, stopped⟩ :=
      framed.exists_stop_framed (Phase.inStep_idle free)
    refine ⟨trace, journal, rest, after, reached, ?_⟩
    rcases stopped with ⟨result, rfl⟩ | ⟨resume, rfl⟩
    · trivial
    · trivial

/-- The device is busy once, a payload is too large and its buffer cannot be given back, the
assembler panics all the same, and then the frame cannot be ended. -/
example :
    (Scripted.context.run
        (Session.submit { format := .textureArray, lock := .mutex 0 }
          { surface := { name := "s", slice := 0 }
            pictureParameters := [1]
            assembler :=
              (.commit .bitstream [1, 2, 3] 0 fun _ => .panic .outOfRange : Assembler Empty) }).run
        { driver :=
            { script :=
                { capacity := 2
                  begins := [.failed .pending]
                  releases := [.ok (), .failed ⟨5⟩]
                  ends := [.failed ⟨6⟩] } } }).map
        (fun finished => finished.journal.filterMap fun entry =>
          match entry with
          | .log record => if record.level = .error then some record.text else none
          | _ => none) =
      some
        ["Buffer for type Bitstream was too small",
          "Failed to release buffer type Bitstream: 0x00000005",
          "Failed to end frame: 0x00000006"] := by
  decide +kernel

end HardwareDecode
