/-
Module: HardwareDecode.Log
Purpose: Records a session logs about the frames it submits.
Main exports: LogLevel, Stage, LogRecord, LogRecord.level, LogRecord.text, LogRecord.message
-/
import HardwareDecode.Buffer

namespace HardwareDecode

inductive LogLevel where
  | error
  | debug
  | trace
deriving DecidableEq, Repr, Inhabited

/-- The parts of a frame's batch, in the order in which they are committed. -/
inductive Stage where
  | pictureParameters
  | inverseQuantizationMatrix
  | assembly
deriving DecidableEq, Repr, Inhabited

/-- What happened, one constructor for each kind of record. -/
inductive LogRecord where
  | busy (attempt : UInt32)
  | beganAfter (attempts : UInt32)
  | beginFailed (status : Status)
  | getFailed (kind : BufferKind) (status : Status)
  | tooSmall (kind : BufferKind)
  | committed (size : UInt32) (kind : BufferKind)
  | releaseFailed (kind : BufferKind) (status : Status)
  | stageFailed (stage : Stage)
  | executeFailed (status : Status)
  | endFailed (status : Status)
  | submitted (count : UInt64)
deriving DecidableEq, Repr, Inhabited

namespace LogRecord

/-- Failures are errors; progress of a frame is for debugging; the rest is a trace. -/
def level : LogRecord → LogLevel
  | busy _ | committed _ _ => .trace
  | beganAfter _ | submitted _ => .debug
  | _ => .error

/-- The text of a record. -/
def text : LogRecord → String
  | busy attempt => "Decoder busy on attempt " ++ toString attempt.toNat ++ ", retrying"
  | beganAfter attempts => "Began frame after " ++ toString attempts.toNat ++ " attempts"
  | beginFailed status => "Failed to begin frame: " ++ status.text
  | getFailed kind status => "Failed to get a buffer for " ++ kind.text ++ ": " ++ status.text
  | tooSmall kind => "Buffer for type " ++ kind.text ++ " was too small"
  | committed size kind => "Committed " ++ toString size.toNat ++ " bytes of " ++ kind.text
  | releaseFailed kind status =>
      "Failed to release buffer type " ++ kind.text ++ ": " ++ status.text
  | stageFailed .pictureParameters => "Failed to add picture parameter buffer"
  | stageFailed .inverseQuantizationMatrix => "Failed to add inverse quantization matrix buffer"
  | stageFailed .assembly => "Failed to add bitstream or slice control buffer"
  | executeFailed status => "Failed to execute: " ++ status.text
  | endFailed status => "Failed to end frame: " ++ status.text
  | submitted count => "Submitted frame " ++ toString count.toNat

/-- The level of a record and its text. -/
def message (record : LogRecord) : LogLevel × String :=
  (record.level, record.text)

/-- While 32 bits hold it, the number of an attempt is the one a reader expects. -/
theorem message_busy {number : Nat} (size : number < UInt32.size) :
    (busy (.ofNat number)).message =
      (.trace, "Decoder busy on attempt " ++ toString number ++ ", retrying") := by
  change (LogLevel.trace,
    "Decoder busy on attempt " ++ toString (UInt32.ofNat number).toNat ++ ", retrying") = _
  rw [UInt32.toNat_ofNat_of_lt' size]

theorem message_beganAfter {attempts : Nat} (size : attempts < UInt32.size) :
    (beganAfter (.ofNat attempts)).message =
      (.debug, "Began frame after " ++ toString attempts ++ " attempts") := by
  change (LogLevel.debug,
    "Began frame after " ++ toString (UInt32.ofNat attempts).toNat ++ " attempts") = _
  rw [UInt32.toNat_ofNat_of_lt' size]

end LogRecord

end HardwareDecode
