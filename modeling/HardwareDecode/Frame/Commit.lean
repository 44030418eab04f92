/-
Module: HardwareDecode.Frame.Commit
Purpose: Committing a payload: borrow the driver's buffer of a kind, write the payload into it if it
  fits, and give the buffer back in either case.
Main exports: commit, fill
-/
import HardwareDecode.Effect.Action

namespace HardwareDecode

variable {S ν : Type}

/-- Write `payload` at the start of a lent buffer and describe it, or refuse a payload that does
not fit or whose size is no 32-bit number. -/
def fill (kind : BufferKind) (payload lent : Bytes) (macroblocks : UInt32) :
    Action S ν Descriptor := do
  if payload.length < UInt32.size ∧ payload.length ≤ lent.length then
    let size := UInt32.ofNat payload.length
    Action.request (.store kind (lent.overlay payload))
    Action.log (.committed size kind)
    return { kind, dataSize := size, macroblocks }
  else
    Action.log (.tooSmall kind)
    Action.fail (.bufferTooSmall kind payload.length lent.length)

/-- Commit a payload as a buffer of some kind.  The buffer is released whether or not the payload
fitted, and a release that fails is the failure of the commit. -/
def commit (kind : BufferKind) (payload : Bytes) (macroblocks : UInt32) :
    Action S ν Descriptor := do
  match ← Action.call (.getBuffer kind) with
  | .error status =>
      Action.log (.getFailed kind status)
      Action.fail (.driver (.getBuffer kind) status)
  | .ok lent =>
      let filled ← (fill kind payload lent macroblocks).attempt
      match ← Action.call (.releaseBuffer kind) with
      | .error status =>
          Action.log (.releaseFailed kind status)
          Action.fail (.driver (.releaseBuffer kind) status)
      | .ok () =>
          match filled with
          | .ok descriptor => return descriptor
          | .error error => Action.fail error

end HardwareDecode
