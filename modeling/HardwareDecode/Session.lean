/-
Module: HardwareDecode.Session
Purpose: Decoding sessions: opening one for a pixel format, and submitting frames to it.
Main exports: Session, Session.open?, Session.submit
-/
import HardwareDecode.Frame
import HardwareDecode.Retry

namespace HardwareDecode

/-- A session on one decoder.  The backend is what answers its requests. -/
structure Session where
  format : PixelFormat
  /-- The lock of the device, as the backend named it when the session was opened. -/
  lock : DeviceLock
  retry : RetryPolicy := .standard
  /-- The number of frames decoded without a failure. -/
  framesSubmitted : UInt64 := 0
deriving DecidableEq, Repr

namespace Session

variable {S ν : Type}

/-- Open a session for a format, which must be one that the backend serves. -/
def open? (format : PixelFormat) : Program S ν (Except Refusal Session) := do
  match format.backend with
  | .error refusal => return .error refusal
  | .ok expected =>
      let actual ← Program.request (.query .kind)
      if expected = actual then
        let lock ← Program.request (.query .deviceLock)
        return .ok { format, lock }
      else
        return .error (.wrongBackend format expected actual)

/-- Count a decoded frame. -/
def count (session : Session) : Action S ν Session := do
  let framesSubmitted := session.framesSubmitted + 1
  Action.log (.submitted framesSubmitted)
  return { session with framesSubmitted }

/-- Decode one frame.  Once the frame has begun it is ended, whatever happens, and the lock is held
until the end has returned.  An earlier failure wins over one to end the frame. -/
def submit (session : Session) (frame : Frame S ν) : Action S ν Session := do
  session.retry.begin session.lock frame.surface
  let (executed, ended) ← frame.decode.releasing session.lock
  match executed, ended with
  | .ok (), .ok () => session.count
  | .ok (), .error status =>
      Action.log (.endFailed status)
      Action.fail (.driver .endFrame status)
  | .error error, .ok () => Action.fail error
  | .error error, .error status =>
      Action.log (.endFailed status)
      Action.fail error

end Session

end HardwareDecode
