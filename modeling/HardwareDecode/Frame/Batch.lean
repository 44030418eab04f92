/-
Module: HardwareDecode.Frame.Batch
Purpose: The buffers committed so far for a frame, and when they are a batch the driver may execute.
Main exports: Batch, Batch.add, Batch.require, Batch.check
-/
import HardwareDecode.Frame.Commit

namespace HardwareDecode

/-- Descriptors of the committed buffers, in the order of their commits. -/
structure Batch where
  descriptors : List Descriptor := []
deriving DecidableEq, Repr, Inhabited

namespace Batch

variable {S ν : Type}

/-- The batch with one more buffer. -/
def push (batch : Batch) (descriptor : Descriptor) : Batch :=
  ⟨batch.descriptors ++ [descriptor]⟩

/-- The kinds of the committed buffers. -/
def kinds (batch : Batch) : List BufferKind := batch.descriptors.map Descriptor.kind

/-- Commit a payload as the next buffer: the result of the commit, and the batch with the buffer
if there is one. -/
def add (batch : Batch) (kind : BufferKind) (payload : Bytes) (macroblocks : UInt32) :
    Action S ν (Except FrameError Descriptor × Batch) := do
  match ← (commit kind payload macroblocks).attempt with
  | .ok descriptor => return (.ok descriptor, batch.push descriptor)
  | .error error => return (.error error, batch)

/-- Commit a payload as the next buffer, and fail if the commit fails. -/
def require (batch : Batch) (kind : BufferKind) (payload : Bytes) (macroblocks : UInt32) :
    Action S ν Batch := do
  let (result, after) ← batch.add kind payload macroblocks
  match result with
  | .ok _ => return after
  | .error error => Action.fail error

/-- A complete batch has the `expected` number of buffers, and the bitstream and the slice control
data come last, in that order.  Anything else is a programming error of the assembler. -/
def check (batch : Batch) (expected : Nat) : Except Panic Unit :=
  if batch.kinds.length ≠ expected then .error (.batchLength batch.kinds)
  else if [.bitstream, .sliceControl].isSuffixOf batch.kinds then .ok ()
  else .error (.batchOrder batch.kinds)

end Batch

end HardwareDecode
