/-
Module: HardwareDecode.Driver
Purpose: What a driver is to the program that calls it: five calls that may fail or panic and change
  the driver's state, and a window through which a lent buffer is written.
Main exports: Reply, Driver, Driver.encoded
-/
import HardwareDecode.Effect.Request

namespace HardwareDecode

/-- What a driver call gives, the driver's state after it, and the events it recorded. -/
structure Reply (α σ ο : Type) where
  outcome : Outcome α
  state : σ
  events : List ο := []

/-- A driver with states in `σ` and events in `ο`, for buffers named by `κ`, surfaces in `S` and
batches of `δ`.  A driver can see which locks are held. -/
structure Driver (κ S δ σ ο : Type) where
  getBuffer : κ → Locks → σ → Reply Bytes σ ο
  releaseBuffer : κ → Locks → σ → Reply Unit σ ο
  beginFrame : S → Locks → σ → Reply Unit σ ο
  submitBuffers : List δ → Locks → σ → Reply Unit σ ο
  endFrame : Locks → σ → Reply Unit σ ο
  /-- The state after a lent buffer was given new contents. -/
  store : κ → Bytes → σ → σ

/-- The same driver behind other names of buffers and another form of batches. -/
def Driver.encoded {κ κ' S δ δ' σ ο : Type} (driver : Driver κ' S δ' σ ο) (name : κ → κ')
    (layout : δ → δ') : Driver κ S δ σ ο where
  getBuffer kind := driver.getBuffer (name kind)
  releaseBuffer kind := driver.releaseBuffer (name kind)
  beginFrame := driver.beginFrame
  submitBuffers batch := driver.submitBuffers (batch.map layout)
  endFrame := driver.endFrame
  store kind := driver.store (name kind)

end HardwareDecode
