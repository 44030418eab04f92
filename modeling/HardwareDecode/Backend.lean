/-
Module: HardwareDecode.Backend
Purpose: A driver together with what a session wants to know of it, and the surroundings that a
  backend and the device locks make for a program.
Main exports: Backend, World, Entry, Backend.environment, Backend.run
-/
import HardwareDecode.Driver
import HardwareDecode.Effect.Environment

namespace HardwareDecode

/-- A driver for frames of surfaces in `S`, and its answers to queries, which never change. -/
structure Backend (S σ ο : Type) where
  kind : BackendKind
  lock : DeviceLock
  surfaceIndex : S → Option UInt32
  driver : Driver BufferKind S Descriptor σ ο
  /-- The events recorded when a query is answered. -/
  asked : Query S → List ο := fun _ => []

/-- A driver's state and that of the locks. -/
structure World (σ : Type) where
  driver : σ
  locks : Locks := {}
deriving Inhabited

/-- What a run leaves behind, in order. -/
inductive Entry (ο ν : Type) where
  | event (event : ο)
  | log (record : LogRecord)
  | note (note : ν)

namespace Backend

variable {S σ ο ν α : Type}

/-- The answer to a query. -/
def answer (backend : Backend S σ ο) : (query : Query S) → query.Answer
  | .kind => backend.kind
  | .deviceLock => backend.lock
  | .surfaceIndex surface => backend.surfaceIndex surface

/-- The driver's reply to a call. -/
def reply (backend : Backend S σ ο) : (call : Call S) → Locks → σ → Reply call.Answer σ ο
  | .getBuffer kind => backend.driver.getBuffer kind
  | .releaseBuffer kind => backend.driver.releaseBuffer kind
  | .beginFrame surface => backend.driver.beginFrame surface
  | .submitBuffers batch => backend.driver.submitBuffers batch
  | .endFrame => backend.driver.endFrame

/-- Answer a request.  A lock that someone else holds is not given, and an abort has no answer. -/
def serve (backend : Backend S σ ο) :
    (request : Request S ν) → World σ →
      Option (Served request.Answer (World σ) (Entry ο ν))
  | .call call, world =>
      let reply := backend.reply call world.locks world.driver
      some
        { answer := reply.outcome
          world := { world with driver := reply.state }
          journal := reply.events.map .event }
  | .store kind contents, world =>
      some
        { answer := ()
          world := { world with driver := backend.driver.store kind contents world.driver } }
  | .acquire lock, world =>
      (world.locks.take lock).map fun locks => { answer := (), world := { world with locks } }
  | .free lock unwinding, world =>
      some { answer := (), world := { world with locks := world.locks.free lock unwinding } }
  | .sleep _, world => some { answer := .ok (), world }
  | .log record, world => some { answer := (), world, journal := [.log record] }
  | .note note, world => some { answer := (), world, journal := [.note note] }
  | .query query, world =>
      some
        { answer := backend.answer query
          world
          journal := (backend.asked query).map .event }
  | .abort, _ => none

/-- The surroundings a backend makes. -/
def environment (backend : Backend S σ ο) : Environment S ν (World σ) (Entry ο ν) :=
  ⟨backend.serve⟩

/-- Run a program over a backend. -/
def run (backend : Backend S σ ο) (program : Program S ν α) (world : World σ) :
    Option (Finished α (World σ) (Entry ο ν)) :=
  backend.environment.run program world

end Backend

end HardwareDecode
