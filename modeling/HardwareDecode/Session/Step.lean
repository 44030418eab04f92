/-
Module: HardwareDecode.Session.Step
Purpose: The life of a session as a sequence of steps.  A submission that fails or panics leaves the
  session ready for the next step.
Main exports: Session.Step, Session.Result, Session.perform, Session.performAll,
  Session.life
-/
import HardwareDecode.Session

namespace HardwareDecode.Session

variable {S ν : Type}

/-- What can be done with an open session. -/
inductive Step (S ν : Type) where
  | submit (frame : Frame S ν)
  /-- Replace the retry policy. -/
  | setRetry (policy : RetryPolicy)
  /-- Ask where a surface stands among the session's surfaces. -/
  | surfaceIndex (surface : S)
  /-- Ask for the kind and the format, and whether sessions of the kind use the device lock. -/
  | info

/-- What comes of a step. -/
inductive Result where
  | submitted (result : Except Interruption Unit)
  | retrySet
  | surfaceIndex (result : Except Refusal UInt32)
  | info (kind : BackendKind) (format : PixelFormat) (usesDeviceLock : Bool)

/-- Where a surface stands among the session's surfaces. -/
def surfaceIndex (surface : S) : Program S ν (Except Refusal UInt32) := do
  match ← Program.request (.query (.surfaceIndex surface)) with
  | some index => return .ok index
  | none => return .error .foreignSurface

/-- Do one step. -/
def perform (session : Session) : Step S ν → Program S ν (Result × Session)
  | .submit frame => do
      match ← (session.submit frame).run with
      | .ok after => return (.submitted (.ok ()), after)
      | .error interruption => return (.submitted (.error interruption), session)
  | .setRetry policy => return (.retrySet, { session with retry := policy })
  | .surfaceIndex surface => do
      let result ← surfaceIndex surface
      return (.surfaceIndex result, session)
  | .info => do
      let kind ← Program.request (.query .kind)
      let asked ← Program.request (.query .kind)
      return (.info kind session.format asked.usesDeviceLock, session)

/-- Do steps in order. -/
def performAll (session : Session) : List (Step S ν) → Program S ν (List Result × Session)
  | [] => return ([], session)
  | step :: steps => do
      let (result, after) ← session.perform step
      let (results, last) ← after.performAll steps
      return (result :: results, last)

/-- The whole life of a session: open it, set its policy, and do steps. -/
def life (format : PixelFormat) (policy : RetryPolicy) (steps : List (Step S ν)) :
    Program S ν (Except Refusal (List Result × Session)) := do
  match ← open? format with
  | .error refusal => return .error refusal
  | .ok session =>
      let lived ← { session with retry := policy }.performAll steps
      return .ok lived

end HardwareDecode.Session
