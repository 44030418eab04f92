/-
Module: HardwareDecode.Frame
Purpose: A coded frame, and what is done with it between the begin and the end of a frame on the
  device: its own payloads and those of its assembler are committed, and the batch is executed.
Main exports: Frame, Frame.execute, Frame.decode
-/
import HardwareDecode.Frame.Assembler

namespace HardwareDecode

/-- A coded frame for a surface. -/
structure Frame (S ν : Type) where
  surface : S
  pictureParameters : Bytes
  /-- Empty if the frame needs no matrix. -/
  quantMatrix : Bytes := []
  assembler : Assembler ν

namespace Frame

variable {S ν : Type}

/-- The number of buffers in the batch of a frame: the session's own one or two, then two of the
assembler. -/
def batchSize (frame : Frame S ν) : Nat :=
  if frame.quantMatrix.isEmpty then 3 else 4

/-- Commit the matrix of the frame, if it has one. -/
def requireMatrix (frame : Frame S ν) (batch : Batch) : Action S ν Batch :=
  if frame.quantMatrix.isEmpty then pure batch
  else
    (batch.require .inverseQuantizationMatrix frame.quantMatrix 0).onFailure
      (.stageFailed .inverseQuantizationMatrix)

/-- Commit the payloads of the frame, in order, up to the first failure. -/
def assemble (frame : Frame S ν) : Action S ν Batch := do
  let batch ←
    (({} : Batch).require .pictureParameters frame.pictureParameters 0).onFailure
      (.stageFailed .pictureParameters)
  let batch ← frame.requireMatrix batch
  (frame.assembler.assemble batch).onFailure (.stageFailed .assembly)

/-- Execute a batch on the driver. -/
def submit (batch : Batch) : Action S ν Unit := do
  match ← Action.call (.submitBuffers batch.descriptors) with
  | .ok () => return ()
  | .error status =>
      Action.log (.executeFailed status)
      Action.fail (.driver .execute status)

/-- Commit the payloads of a frame and execute them, if they make a complete batch. -/
def execute (frame : Frame S ν) : Action S ν Unit := do
  let batch ← frame.assemble
  match batch.check frame.batchSize with
  | .ok () => submit batch
  | .error cause => Action.panic cause

/-- End the frame while a panic unwinds.  A failing status is only logged, and a second panic ends
everything. -/
def abandon : Program S ν Unit := do
  match ← Program.request (.call .endFrame) with
  | .ok () => return ()
  | .failed status => Program.request (.log (.endFailed status))
  | .panicked _ =>
      let never ← Program.request .abort
      nomatch never

/-- Execute a frame that has begun and end it, however the execution went.  The result is that of
the execution and that of the end. -/
def decode (frame : Frame S ν) : Action S ν (Except FrameError Unit × Except Status Unit) := do
  let executed ← frame.execute.attempt.onUnwind abandon
  let ended ← Action.call .endFrame
  return (executed, ended)

end Frame

end HardwareDecode
