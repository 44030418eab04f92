/-
Module: HardwareDecode.Proofs.FailureMessages
Purpose: The messages about failed driver calls, told from others by their level and by the status
  in which they end, and the failures that a sequence of driver calls leaves to be reported.
Main exports: endsInStatus, LogRecord.isStatusError, LogRecord.Reports, LogRecord.isStatusError_eq,
  failures, statusErrors, reports_failing
-/
import HardwareDecode.Proofs.Dialogue
import Mathlib.Data.List.Forall2

namespace HardwareDecode

variable {S ν : Type}

/-! ### Messages that end in a status -/

/-- A lowercase hexadecimal digit. -/
def Hex.isDigit (char : Char) : Bool :=
  "0123456789abcdef".toList.contains char

theorem Hex.isDigit_digitChar {n : Nat} (below : n < 16) :
    Hex.isDigit (Nat.digitChar n) = true := by
  have each : ∀ digit : Fin 16, Hex.isDigit (Nat.digitChar digit) = true := by decide
  exact each ⟨n, below⟩

theorem Hex.isDigit_of_mem_digits {width n : Nat} {char : Char}
    (member : char ∈ Hex.digits width n) : Hex.isDigit char = true := by
  induction width generalizing n with
  | zero => cases member
  | succ width inductionHypothesis =>
      rw [Hex.digits, List.mem_append, List.mem_singleton] at member
      rcases member with higher | rfl
      · exact inductionHypothesis higher
      · exact Hex.isDigit_digitChar (Nat.mod_lt n (by decide))

/-- Whether a text ends the way a status is written: in `0x` and eight hexadecimal digits. -/
def endsInStatus (text : String) : Bool :=
  let reversed := text.toList.reverse
  (reversed.take 8).all Hex.isDigit && (reversed.drop 8).take 2 == ['x', '0']

theorem endsInStatus_append (front : String) (status : Status) :
    endsInStatus (front ++ status.text) = true := by
  have length := Hex.length_digits 8 status.code.toUInt32.toNat
  have hexadecimal : ∀ char ∈ Hex.digits 8 status.code.toUInt32.toNat, Hex.isDigit char = true :=
    fun _ => Hex.isDigit_of_mem_digits
  have written : (front ++ status.text).toList.reverse =
      (Hex.digits 8 status.code.toUInt32.toNat).reverse ++
        (['x', '0'] ++ front.toList.reverse) := by
    simp [Status.text, Hex.padded]
  unfold endsInStatus
  rw [written]
  simpa [length] using hexadecimal

/-- A driver call that failed, and how. -/
abbrev Failing := DriverStep × Status

/-- What a message says failed, before the status. -/
def DriverStep.complaint : DriverStep → String
  | .getBuffer kind => "Failed to get a buffer for " ++ kind.text
  | .releaseBuffer kind => "Failed to release buffer type " ++ kind.text
  | .beginFrame => "Failed to begin frame"
  | .execute => "Failed to execute"
  | .endFrame => "Failed to end frame"

namespace LogRecord

/-- Whether a message is an error that ends in a status. -/
def isStatusError (record : LogRecord) : Bool :=
  record.level == .error && endsInStatus record.text

/-- A message about a failed driver call: an error that says what failed and with which status. -/
structure Reports (record : LogRecord) (failing : Failing) : Prop where
  level : record.level = .error
  text : record.text = failing.1.complaint ++ ": " ++ failing.2.text

/-- The failed driver call that a message is about. -/
def failing? : LogRecord → Option Failing
  | beginFailed status => some (.beginFrame, status)
  | getFailed kind status => some (.getBuffer kind, status)
  | releaseFailed kind status => some (.releaseBuffer kind, status)
  | executeFailed status => some (.execute, status)
  | endFailed status => some (.endFrame, status)
  | _ => none

theorem reports_of_failing? {record : LogRecord} {failing : Failing}
    (about : record.failing? = some failing) : record.Reports failing := by
  have joined {opening : String} (step : DriverStep) (same : opening = step.complaint ++ ": ")
      (status : Status) : opening ++ status.text = step.complaint ++ ": " ++ status.text :=
    congrArg (· ++ status.text) same
  cases record with
  | beginFailed status =>
      cases about
      exact ⟨rfl, joined .beginFrame (by decide) status⟩
  | getFailed kind status | releaseFailed kind status =>
      cases about
      exact ⟨rfl, rfl⟩
  | executeFailed status =>
      cases about
      exact ⟨rfl, joined .execute (by decide) status⟩
  | endFailed status =>
      cases about
      exact ⟨rfl, joined .endFrame (by decide) status⟩
  | _ => cases about

/-- Exactly the messages about failed driver calls are errors that end in a status. -/
theorem isStatusError_eq (record : LogRecord) :
    record.isStatusError = record.failing?.isSome := by
  cases about : record.failing? with
  | some failing =>
      obtain ⟨level, text⟩ := reports_of_failing? about
      rw [isStatusError, level, text, endsInStatus_append]
      rfl
  | none =>
      cases record with
      | busy | beganAfter | committed | submitted => rfl
      | tooSmall kind => cases kind <;> decide
      | stageFailed stage => cases stage <;> decide
      | _ => cases about

end LogRecord

def Request.record? : Request S ν → Option LogRecord
  | .log record => some record
  | _ => none

/-- The messages in a sequence of exchanges. -/
def records (trace : List (Exchange S ν)) : List LogRecord :=
  trace.filterMap fun exchange => exchange.request.record?

/-- The errors that end in a status, in the order in which they were logged. -/
def statusErrors (trace : List (Exchange S ν)) : List LogRecord :=
  (records trace).filter LogRecord.isStatusError

/-- Each of them says what failed and with which status. -/
theorem reports_failing (logged : List LogRecord) :
    List.Forall₂ LogRecord.Reports (logged.filter LogRecord.isStatusError)
      (logged.filterMap LogRecord.failing?) := by
  induction logged with
  | nil => exact .nil
  | cons record logged inductionHypothesis =>
      have statusError := record.isStatusError_eq
      cases about : record.failing? with
      | none =>
          rw [about] at statusError
          rw [List.filter_cons_of_neg (by simp [statusError]), List.filterMap_cons_none about]
          exact inductionHypothesis
      | some failing =>
          rw [about] at statusError
          rw [List.filter_cons_of_pos statusError, List.filterMap_cons_some about]
          exact .cons (LogRecord.reports_of_failing? about) inductionHypothesis

/-! ### Driver calls that fail -/

/-- What a call asks of the driver. -/
def Call.step : Call S → DriverStep
  | .getBuffer kind => .getBuffer kind
  | .releaseBuffer kind => .releaseBuffer kind
  | .beginFrame _ => .beginFrame
  | .submitBuffers _ => .execute
  | .endFrame => .endFrame

def Call.isBegin : Call S → Bool
  | .beginFrame _ => true
  | _ => false

namespace Answered

/-- What failed, if the answer is a failing status. -/
def failing? : Answered S → Option Failing
  | ⟨call, .failed status⟩ => some (call.step, status)
  | _ => none

/-- A begin that found the device busy. -/
def foundBusy : Answered S → Bool
  | ⟨.beginFrame _, .failed status⟩ => status.isPending
  | _ => false

end Answered

/-- The call that follows, in what was said later or as the one that is made next. -/
def following (later : Dialogue S) (next : Option (Call S)) : Option (Call S) :=
  (later.head?.map Answered.call).or next

/-- The failures in a dialogue that goes on with the call `next`, if it goes on at all.  A begin
that found the device busy is none of them if it is made again. -/
def failures : Dialogue S → Option (Call S) → List Failing
  | [], _ => []
  | answered :: later, next =>
      if answered.foundBusy && (following later next).any Call.isBegin then failures later next
      else answered.failing?.toList ++ failures later next

theorem failures_cons_of_fine {answered : Answered S} (fine : answered.failing? = none)
    (later : Dialogue S) (next : Option (Call S)) :
    failures (answered :: later) next = failures later next := by
  simp [failures, fine]

theorem failures_cons_of_retried {answered : Answered S} (busy : answered.foundBusy = true)
    {later : Dialogue S} {next : Option (Call S)}
    (again : (following later next).any Call.isBegin = true) :
    failures (answered :: later) next = failures later next := by
  simp [failures, busy, again]

theorem failures_cons_of_final {answered : Answered S} {later : Dialogue S}
    {next : Option (Call S)} (final : (following later next).any Call.isBegin = false) :
    failures (answered :: later) next = answered.failing?.toList ++ failures later next := by
  simp [failures, final]

/-! ### Failures to end a frame -/

/-- A message about a failed end of a frame. -/
def LogRecord.reportsEnd : LogRecord → Bool
  | .endFailed _ => true
  | _ => false

def Failing.endStatus? : Failing → Option Status
  | (.endFrame, status) => some status
  | _ => none

def Answered.failedEnd? : Answered S → Option Status
  | ⟨.endFrame, .failed status⟩ => some status
  | _ => none

theorem filter_reportsEnd (logged : List LogRecord) :
    logged.filter LogRecord.reportsEnd =
      ((logged.filterMap LogRecord.failing?).filterMap Failing.endStatus?).map .endFailed := by
  induction logged with
  | nil => rfl
  | cons record logged inductionHypothesis =>
      cases record with
      | endFailed status => exact congrArg _ inductionHypothesis
      | _ => exact inductionHypothesis

theorem failures_endStatus (dialogue : Dialogue S) (next : Option (Call S)) :
    (failures dialogue next).filterMap Failing.endStatus? =
      dialogue.filterMap Answered.failedEnd? := by
  induction dialogue with
  | nil => rfl
  | cons answered later inductionHypothesis =>
      have first : answered.failing?.toList.filterMap Failing.endStatus? =
          answered.failedEnd?.toList := by
        obtain ⟨call, outcome⟩ := answered
        cases outcome <;> cases call <;> rfl
      have split : (answered :: later).filterMap Answered.failedEnd? =
          answered.failedEnd?.toList ++ later.filterMap Answered.failedEnd? := by
        rw [List.filterMap_cons]
        cases answered.failedEnd? <;> rfl
      rw [split, failures]
      split
      next retried =>
        have noEnd : answered.failedEnd? = none := by
          obtain ⟨busy, _⟩ := Bool.and_eq_true_iff.mp retried
          obtain ⟨call, outcome⟩ := answered
          cases call with
          | beginFrame surface => rfl
          | _ => cases busy
        rw [noEnd]
        exact inductionHypothesis
      next => rw [List.filterMap_append, first, inductionHypothesis]

end HardwareDecode
