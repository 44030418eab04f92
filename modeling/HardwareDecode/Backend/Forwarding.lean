/-
Module: HardwareDecode.Backend.Forwarding
Purpose: A backend that hands every call on to a driver of plain descriptors and records each query
  it is asked.  It may claim any kind and name any lock.
Main exports: Forwarding.Event, Forwarding.backend
-/
import HardwareDecode.Backend

namespace HardwareDecode.Forwarding

/-- What is recorded: the queries with their answers as far as they are told, and the driver's own
events. -/
inductive Event (S ο : Type) where
  | kind (kind : BackendKind)
  | deviceLock
  | surfaceIndex (surface : S)
  | driver (event : ο)

variable {S σ ο : Type}

/-- The event of a query. -/
def Event.ofQuery (kind : BackendKind) : Query S → Event S ο
  | .kind => .kind kind
  | .deviceLock => .deviceLock
  | .surfaceIndex surface => .surfaceIndex surface

/-- A reply with its events among those of the backend. -/
def lift {α : Type} (reply : Reply α σ ο) : Reply α σ (Event S ο) :=
  { reply with events := reply.events.map .driver }

/-- A backend over a driver, for surfaces with a table of their numbers.  The number of a surface
is that of the first entry which equals it. -/
def backend [BEq S] (driver : Driver UInt32 S Descriptor σ ο) (kind : BackendKind)
    (lock : DeviceLock) (surfaces : List (S × UInt32)) : Backend S σ (Event S ο) where
  kind := kind
  lock := lock
  surfaceIndex surface := surfaces.lookup surface
  driver :=
    { getBuffer := fun kind locks state => lift (driver.getBuffer kind.code locks state)
      releaseBuffer := fun kind locks state => lift (driver.releaseBuffer kind.code locks state)
      beginFrame := fun surface locks state => lift (driver.beginFrame surface locks state)
      submitBuffers := fun batch locks state => lift (driver.submitBuffers batch locks state)
      endFrame := fun locks state => lift (driver.endFrame locks state)
      store := fun kind => driver.store kind.code }
  asked query := [.ofQuery kind query]

end HardwareDecode.Forwarding
