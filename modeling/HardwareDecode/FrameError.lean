/-
Module: HardwareDecode.FrameError
Purpose: Why a frame was not decoded, with the causes an assembler may give, their texts, and the
  chain of texts from an error down to its first cause.
Main exports: DriverStep, FrameError, Cause, FrameError.message, FrameError.chain, Cause.chain,
  FrameError.cause?
-/
import HardwareDecode.Buffer
import HardwareDecode.Refusal

namespace HardwareDecode

/-- The driver calls whose failure fails a frame. -/
inductive DriverStep where
  | getBuffer (kind : BufferKind)
  | releaseBuffer (kind : BufferKind)
  | beginFrame
  | execute
  | endFrame
deriving DecidableEq, Repr, Inhabited

/-- What the driver was doing, in messages. -/
def DriverStep.text : DriverStep → String
  | .getBuffer kind => "getting a " ++ kind.text ++ " buffer"
  | .releaseBuffer kind => "releasing the " ++ kind.text ++ " buffer"
  | .beginFrame => "begin frame"
  | .execute => "execute"
  | .endFrame => "end frame"

mutual

/-- Why a frame was not decoded. -/
inductive FrameError where
  /-- The driver was busy at every attempt to begin the frame. -/
  | stillBusy (attempts : UInt32)
  /-- A payload is larger than the buffer the driver lent. -/
  | bufferTooSmall (kind : BufferKind) (size capacity : Nat)
  /-- A driver call failed. -/
  | driver (step : DriverStep) (status : Status)
  /-- The assembler failed for a reason of its own. -/
  | assembler (cause : Cause)

/-- A reason given by an assembler: a first cause, or a remark put around another reason. -/
inductive Cause where
  | message (text : String)
  | status (status : Status)
  | frame (error : FrameError)
  | refusal (refusal : Refusal)
  | context (remark : String) (inner : Cause)

end

namespace FrameError

/-- The text of an error, given the chain of texts beneath it. -/
def headline (chain : List String) : FrameError → String
  | stillBusy attempts =>
      "decoder still busy after " ++ toString attempts.toNat ++ " begin frame attempts"
  | bufferTooSmall kind size capacity =>
      kind.text ++ " buffer too small: " ++ toString size ++ " bytes for a capacity of "
        ++ toString capacity
  | driver step status => "driver error while " ++ step.text ++ ": " ++ status.text
  | assembler _ => "bitstream assembly failed: " ++ String.intercalate ": " chain

end FrameError

mutual

/-- The texts beneath an error, from the outermost to the first cause. -/
def FrameError.chain : FrameError → List String
  | .assembler cause => cause.chain
  | .stillBusy _ => []
  | .bufferTooSmall _ _ _ => []
  | .driver _ _ => []

/-- The texts of a reason, from the outermost to the first cause. -/
def Cause.chain : Cause → List String
  | .message text => [text]
  | .status status => [status.text]
  | .frame error =>
      let beneath := error.chain
      error.headline beneath :: beneath
  | .refusal refusal => [refusal.message]
  | .context remark inner => remark :: inner.chain

end

/-- The text of an error.  That of an assembler's failure holds its whole chain. -/
def FrameError.message (error : FrameError) : String :=
  error.headline error.chain

/-- The reason in an assembler's failure. -/
def FrameError.cause? : FrameError → Option Cause
  | .assembler cause => some cause
  | _ => none

end HardwareDecode
