/-
Module: HardwareDecode.Frame.Assembler
Purpose: The part of a frame that its codec supplies: a strategy that commits buffers, sees how each
  commit went and what has been committed so far, and decides when to finish, fail or panic.
Main exports: Assembler, Assembler.assemble
-/
import HardwareDecode.Frame.Batch

namespace HardwareDecode

/-- A strategy for the codec's share of a batch.  It may leave notes of type `ν` on the way. -/
inductive Assembler (ν : Type) where
  | finish
  | fail (error : FrameError)
  | panic (panic : Panic)
  /-- Commit a payload and go on with the descriptor or the error. -/
  | commit (kind : BufferKind) (payload : Bytes) (macroblocks : UInt32)
      (next : Except FrameError Descriptor → Assembler ν)
  /-- Look at what has been committed so far. -/
  | inspect (next : List Descriptor → Assembler ν)
  | note (note : ν) (next : Assembler ν)

namespace Assembler

variable {S ν : Type}

/-- Follow a strategy from a batch to the batch it leaves.  A failed commit adds nothing to the
batch, whatever the strategy makes of the failure. -/
def assemble : Assembler ν → Batch → Action S ν Batch
  | finish, batch => return batch
  | fail error, _ => Action.fail error
  | panic cause, _ => Action.panic cause
  | commit kind payload macroblocks next, batch => do
      let (result, after) ← batch.add kind payload macroblocks
      (next result).assemble after
  | inspect next, batch => (next batch.descriptors).assemble batch
  | note mark next, batch => do
      Action.request (.note mark)
      next.assemble batch

end Assembler

end HardwareDecode
