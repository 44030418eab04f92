/-
Module: HardwareDecode.Effect.Action
Purpose: Computations that may fail with a frame error or unwind from a panic, and the ways in
  which a step is protected: what is caught, what is cleaned up, which lock is let go.
Main exports: Interruption, Action, Action.call, Action.attempt, Action.onFailure, Action.onUnwind,
  Action.releasing
-/
import HardwareDecode.Effect.Program

namespace HardwareDecode

/-- Why a computation ends without a value. -/
inductive Interruption where
  /-- It failed, and its caller may go on. -/
  | failure (error : FrameError)
  /-- It unwinds, and only cleaning up is done on the way. -/
  | panic (panic : Panic)

/-- A computation that may be interrupted. -/
abbrev Action (S ν α : Type) := ExceptT Interruption (Program S ν) α

namespace Action

variable {S ν α : Type}

/-- Fail with an error. -/
def fail (error : FrameError) : Action S ν α := throw (.failure error)

/-- Start unwinding. -/
def panic (panic : Panic) : Action S ν α := throw (.panic panic)

/-- Ask for something that cannot interrupt. -/
def request (request : Request S ν) : Action S ν request.Answer :=
  ExceptT.lift (Program.request request)

def log (record : LogRecord) : Action S ν Unit := request (.log record)

def acquire (lock : DeviceLock) : Action S ν Unit := request (.acquire lock)

def free (lock : DeviceLock) : Action S ν Unit := request (.free lock false)

/-- What an outcome of the driver is for its caller: a failing status is a result, and a panic
unwinds. -/
def received : Outcome α → Except Interruption (Except Status α)
  | .ok value => .ok (.ok value)
  | .failed status => .ok (.error status)
  | .panicked cause => .error (.panic cause)

/-- Call the driver. -/
def call (call : Call S) : Action S ν (Except Status call.Answer) :=
  ExceptT.mk (received <$> Program.request (.call call))

def sleep (nanoseconds : Nat) : Action S ν Unit := do
  match ← request (.sleep nanoseconds) with
  | .ok () => return ()
  | .error cause => panic cause

/-- A result whose failure is a value. -/
def attempted : Except Interruption α → Except Interruption (Except FrameError α)
  | .ok value => .ok (.ok value)
  | .error (.failure error) => .ok (.error error)
  | .error (.panic cause) => .error (.panic cause)

/-- Do `action` and give its failure as a result. -/
def attempt (action : Action S ν α) : Action S ν (Except FrameError α) :=
  ExceptT.mk (attempted <$> action.run)

/-- Do `action`; if it fails, log `record` before the failure goes on. -/
def onFailure (record : LogRecord) (action : Action S ν α) : Action S ν α := do
  match ← action.attempt with
  | .ok value => return value
  | .error error =>
      log record
      fail error

/-- Whether a result is a panic on its way out. -/
def unwinds : Except Interruption α → Bool
  | .error (.panic _) => true
  | _ => false

/-- Do `action`; if it unwinds, clean up before the panic goes on. -/
def onUnwind (cleanUp : Program S ν Unit) (action : Action S ν α) : Action S ν α :=
  ExceptT.mk do
    let result ← action.run
    if unwinds result then cleanUp
    return result

/-- Do `action`, holding a lock already, and let go of the lock however it ends. -/
def releasing (lock : DeviceLock) (action : Action S ν α) : Action S ν α :=
  ExceptT.mk do
    let result ← action.run
    Program.request (.free lock (unwinds result))
    return result

end Action

end HardwareDecode
