/-
Module: HardwareDecode.Driver.Recording
Purpose: A driver with fixed failures that records the calls it receives and the buffers it is given
  to execute.  Drivers that share a counter of frames in flight notice when two frames overlap.
Main exports: Recording.Script, Recording.Call, Recording.Record, Recording.State,
  Recording.driver
-/
import HardwareDecode.Buffer.Store
import HardwareDecode.Checksum
import HardwareDecode.Driver
import HardwareDecode.Driver.Layout

namespace HardwareDecode.Recording

/-- What the driver answers, the same at every call. -/
structure Script where
  /-- The capacity of the kinds without one of their own. -/
  capacity : Nat := 1024
  capacities : List (BufferKind × Nat) := []
  /-- The number of begins that find the device busy. -/
  busyBegins : UInt32 := 0
  beginStatus : Option Status := none
  /-- The kind that cannot be had, and why. -/
  getStatus : Option (BufferKind × Status) := none
  /-- The kind that cannot be given back, and why. -/
  releaseStatus : Option (BufferKind × Status) := none
  submitStatus : Option Status := none
  endStatus : Option Status := none
deriving DecidableEq, Repr, Inhabited

/-- The capacity of a kind.  Of several entries for a kind the last one counts. -/
def Script.capacityOf (script : Script) (kind : BufferKind) : Nat :=
  match script.capacities.reverse.find? fun entry => entry.1 = kind with
  | some entry => entry.2
  | none => script.capacity

/-- A received call. -/
inductive Call where
  | getBuffer (kind : BufferKind)
  | releaseBuffer (kind : BufferKind)
  | beginFrame (surface : UInt32)
  | submitBuffers (kinds : List BufferKind)
  | endFrame
deriving DecidableEq, Repr, Inhabited

/-- A received call, and whether the observed lock was held. -/
structure Record where
  call : Call
  locked : Bool
deriving DecidableEq, Repr, Inhabited

/-- A buffer as it was when it was executed. -/
structure Submitted where
  kind : BufferKind
  dataSize : UInt32
  macroblocks : UInt32
  checksum : UInt32
deriving DecidableEq, Repr, Inhabited

/-- A driver, with everything it recorded in order. -/
structure State where
  script : Script := {}
  records : List Record := []
  submitted : List Submitted := []
  buffers : BufferStore BufferKind := .empty
  beginCalls : UInt32 := 0
  /-- Whether a frame ever began while another one was in flight. -/
  overlapped : Bool := false
deriving Inhabited

/-- The number of frames in flight on all drivers that share the count, if it is kept. -/
abbrev InFlight := Option UInt64

namespace State

/-- The received calls. -/
def calls (state : State) : List Call := state.records.map Record.call

/-- How often a call was received. -/
def count (state : State) (call : Call) : Nat := state.calls.count call

/-- The state after a call was received. -/
def record (state : State) (observed : DeviceLock) (locks : Locks) (call : Call) : State :=
  { state with
    records := state.records ++ [{ call, locked := locks.isHeld observed }] }

end State

variable {ο δ : Type} [DescriptorLayout δ]

/-- The scripted failure of a kind. -/
def failing (scripted : Option (BufferKind × Status)) (kind : BufferKind) : Option Status :=
  match scripted with
  | some (failing, status) => if failing = kind then some status else none
  | none => none

/-- A success, or the scripted failure. -/
def answer : Option Status → Outcome Unit
  | none => .ok ()
  | some status => .failed status

/-- Lend the buffer of a kind, made of zeros at its first get in a frame. -/
def getBuffer (observed : DeviceLock) (code : UInt32) (locks : Locks) :
    InFlight × State → Reply Bytes (InFlight × State) ο
  | (inFlight, state) =>
      match BufferKind.ofCode code with
      | .error status => { outcome := .failed status, state := (inFlight, state) }
      | .ok kind =>
          let state := state.record observed locks (.getBuffer kind)
          match failing state.script.getStatus kind with
          | some status => { outcome := .failed status, state := (inFlight, state) }
          | none =>
              let lent :=
                (state.buffers.get? kind).getD (List.replicate (state.script.capacityOf kind) 0)
              { outcome := .ok lent
                state := (inFlight, { state with buffers := state.buffers.put kind lent }) }

def releaseBuffer (observed : DeviceLock) (code : UInt32) (locks : Locks) :
    InFlight × State → Reply Unit (InFlight × State) ο
  | (inFlight, state) =>
      match BufferKind.ofCode code with
      | .error status => { outcome := .failed status, state := (inFlight, state) }
      | .ok kind =>
          { outcome := answer (failing state.script.releaseStatus kind)
            state := (inFlight, state.record observed locks (.releaseBuffer kind)) }

/-- Begin a frame: the buffers of the frame before it are gone, and it is in flight. -/
def beginFrame (observed : DeviceLock) (surface : UInt32) (locks : Locks) :
    InFlight × State → Reply Unit (InFlight × State) ο
  | (inFlight, state) =>
      let recorded := state.record observed locks (.beginFrame surface)
      let state := { recorded with beginCalls := recorded.beginCalls + 1 }
      match state.script.beginStatus with
      | some status => { outcome := .failed status, state := (inFlight, state) }
      | none =>
          if state.beginCalls ≤ state.script.busyBegins then
            { outcome := .failed .pending, state := (inFlight, state) }
          else
            { outcome := .ok ()
              state :=
                (inFlight.map (· + 1),
                  { state with
                    buffers := .empty
                    overlapped := state.overlapped || inFlight.any (· != 0) }) }

/-- Look at the bytes a descriptor describes. -/
def inspect (buffers : BufferStore BufferKind) (descriptor : δ) : Outcome Submitted :=
  match BufferKind.ofCode (DescriptorLayout.code descriptor) with
  | .error status => .failed status
  | .ok kind =>
      match buffers.get? kind with
      | none => .failed .invalidArgument
      | some bytes =>
          let dataSize := DescriptorLayout.dataSize descriptor
          if dataSize.toNat ≤ bytes.length then
            .ok
              { kind
                dataSize
                macroblocks := DescriptorLayout.macroblocks descriptor
                checksum := crc32 (bytes.take dataSize.toNat) }
          else .panicked .outOfRange

/-- Look at the bytes of a whole batch, up to the first fault. -/
def inspectAll (buffers : BufferStore BufferKind) : List δ → Outcome (List Submitted)
  | [] => .ok []
  | descriptor :: later =>
      match inspect buffers descriptor with
      | .failed status => .failed status
      | .panicked panic => .panicked panic
      | .ok first =>
          match inspectAll buffers later with
          | .ok others => .ok (first :: others)
          | fault => fault

/-- Execute a batch.  A batch with a fault is not even recorded. -/
def submitBuffers (observed : DeviceLock) (batch : List δ) (locks : Locks) :
    InFlight × State → Reply Unit (InFlight × State) ο
  | (inFlight, state) =>
      match inspectAll state.buffers batch with
      | .failed status => { outcome := .failed status, state := (inFlight, state) }
      | .panicked panic => { outcome := .panicked panic, state := (inFlight, state) }
      | .ok submitted =>
          let state :=
            state.record observed locks (.submitBuffers (submitted.map Submitted.kind))
          match state.script.submitStatus with
          | some status => { outcome := .failed status, state := (inFlight, state) }
          | none =>
              { outcome := .ok ()
                state := (inFlight, { state with submitted := state.submitted ++ submitted }) }

/-- End a frame.  It is no longer in flight even if the call fails. -/
def endFrame (observed : DeviceLock) (locks : Locks) :
    InFlight × State → Reply Unit (InFlight × State) ο
  | (inFlight, state) =>
      { outcome := answer state.script.endStatus
        state := (inFlight.map (· - 1), state.record observed locks .endFrame) }

/-- Give a lent buffer new contents. -/
def store (code : UInt32) (contents : Bytes) : InFlight × State → InFlight × State
  | (inFlight, state) =>
      match BufferKind.ofCode code with
      | .ok kind => (inFlight, { state with buffers := state.buffers.put kind contents })
      | .error _ => (inFlight, state)

/-- The recording driver, which notes whether `observed` is held at each call. -/
def driver (observed : DeviceLock) : Driver UInt32 UInt32 δ (InFlight × State) ο where
  getBuffer := getBuffer observed
  releaseBuffer := releaseBuffer observed
  beginFrame := beginFrame observed
  submitBuffers := submitBuffers observed
  endFrame := endFrame observed
  store := store

end HardwareDecode.Recording
