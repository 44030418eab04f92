/-
Module: HardwareDecode.Effect.Request
Purpose: Everything a computation can ask of its surroundings, and the kind of answer each request
  gets.  Nothing is said here about who answers.
Main exports: Call, Outcome, Request, Request.Answer
-/
import HardwareDecode.FrameError
import HardwareDecode.Lock
import HardwareDecode.Log
import HardwareDecode.Panic

namespace HardwareDecode

/-- What comes back from a driver: a value, a failing status, or a panic. -/
inductive Outcome (α : Type) where
  | ok (value : α)
  | failed (status : Status)
  | panicked (panic : Panic)
deriving DecidableEq, Repr

/-- The five calls of a driver.  `S` is the type of surfaces. -/
inductive Call (S : Type) where
  /-- Lend the buffer of a kind. -/
  | getBuffer (kind : BufferKind)
  /-- Take back the buffer that was lent. -/
  | releaseBuffer (kind : BufferKind)
  /-- Start a frame on a surface. -/
  | beginFrame (surface : S)
  /-- Execute the committed buffers as one batch. -/
  | submitBuffers (batch : List Descriptor)
  /-- End the frame. -/
  | endFrame
deriving DecidableEq, Repr

/-- What a successful call gives: the contents of a lent buffer, whose length is the capacity
granted, and nothing for the other calls. -/
@[reducible] def Call.Answer {S : Type} : Call S → Type
  | getBuffer _ => Bytes
  | _ => Unit

/-- A question to the backend that neither fails nor needs the device. -/
inductive Query (S : Type) where
  /-- Which interface the backend speaks. -/
  | kind
  /-- Which lock guards the device. -/
  | deviceLock
  /-- Where a surface stands among the session's surfaces. -/
  | surfaceIndex (surface : S)
deriving DecidableEq, Repr

@[reducible] def Query.Answer {S : Type} : Query S → Type
  | kind => BackendKind
  | deviceLock => DeviceLock
  | surfaceIndex _ => Option UInt32

/-- What a computation can ask for.  `ν` is the type of notes an assembler leaves. -/
inductive Request (S ν : Type) where
  | call (call : Call S)
  /-- Replace the contents of a lent buffer. -/
  | store (kind : BufferKind) (contents : Bytes)
  /-- Wait for a lock and hold it. -/
  | acquire (lock : DeviceLock)
  /-- Let go of a lock, `unwinding` from a panic or not. -/
  | free (lock : DeviceLock) (unwinding : Bool)
  | sleep (nanoseconds : Nat)
  | log (record : LogRecord)
  | note (note : ν)
  | query (query : Query S)
  /-- End everything: a panic arose while another one was unwinding. -/
  | abort
deriving DecidableEq, Repr

/-- The answer a request gets.  A sleep may end in a panic of its own, and nothing answers an
abort. -/
@[reducible] def Request.Answer {S ν : Type} : Request S ν → Type
  | call made => Outcome made.Answer
  | sleep _ => Except Panic Unit
  | query asked => asked.Answer
  | abort => Empty
  | _ => Unit

end HardwareDecode
