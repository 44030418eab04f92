/-
Module: HardwareDecode.Driver.Scripted
Purpose: A driver that answers each call as a script says, records every call in its events, and
  keeps the buffers it lent, so that what was written into them can be checked.
Main exports: NamedSurface, Scripted, Scripted.Script, Scripted.Event, Scripted.driver
-/
import HardwareDecode.Buffer.Store
import HardwareDecode.Checksum
import HardwareDecode.Driver
import HardwareDecode.Driver.Layout

namespace HardwareDecode

/-- A surface known by its name.  Surfaces with one name are equal, whatever their slices. -/
structure NamedSurface where
  name : String
  slice : UInt32
deriving Repr, Inhabited

instance : BEq NamedSurface where
  beq first second := first.name == second.name

namespace Scripted

/-- The answers still to be given, a queue for each call.  A call whose queue is empty
succeeds. -/
structure Script where
  /-- The capacity of a lent buffer unless the queue has another one. -/
  capacity : Nat := 64
  begins : List (Outcome Unit) := []
  /-- A success may come with a capacity of its own. -/
  gets : List (Outcome (Option Nat)) := []
  releases : List (Outcome Unit) := []
  submits : List (Outcome Unit) := []
  ends : List (Outcome Unit) := []
deriving Inhabited

/-- A recorded call, and whether the observed lock was held. -/
inductive Event (δ : Type) where
  | getBuffer (code : UInt32) (locked : Bool)
  /-- With the checksum of the whole stored buffer, if there is one. -/
  | releaseBuffer (code : UInt32) (locked : Bool) (checksum : Option UInt32)
  | beginFrame (surface : NamedSurface) (locked : Bool)
  /-- Each descriptor with the checksum of the bytes it describes, if their buffer is stored. -/
  | submitBuffers (locked : Bool) (batch : List (δ × Option UInt32))
  | endFrame (locked : Bool)

/-- The script and the buffers by their codes. -/
structure State where
  script : Script := {}
  buffers : BufferStore UInt32 := .empty
deriving Inhabited

/-- The byte a fresh buffer is filled with. -/
def freshByte : UInt8 := 0xaa

/-- The next answer of a queue. -/
def next {α : Type} (whenEmpty : α) : List (Outcome α) → Outcome α × List (Outcome α)
  | [] => (.ok whenEmpty, [])
  | answer :: later => (answer, later)

variable {δ : Type} [DescriptorLayout δ]

def getBuffer (observed : DeviceLock) (code : UInt32) (locks : Locks) (state : State) :
    Reply Bytes State (Event δ) :=
  let (answer, gets) := next none state.script.gets
  let state := { state with script := { state.script with gets } }
  let events := [.getBuffer code (locks.isHeld observed)]
  match answer with
  | .ok granted =>
      let fresh := List.replicate (granted.getD state.script.capacity) freshByte
      { outcome := .ok fresh
        state := { state with buffers := state.buffers.put code fresh }
        events }
  | .failed status => { outcome := .failed status, state, events }
  | .panicked panic => { outcome := .panicked panic, state, events }

def releaseBuffer (observed : DeviceLock) (code : UInt32) (locks : Locks) (state : State) :
    Reply Unit State (Event δ) :=
  let (outcome, releases) := next () state.script.releases
  { outcome
    state := { state with script := { state.script with releases } }
    events :=
      [.releaseBuffer code (locks.isHeld observed) ((state.buffers.get? code).map crc32)] }

/-- A frame that begins finds no buffers. -/
def beginFrame (observed : DeviceLock) (surface : NamedSurface) (locks : Locks) (state : State) :
    Reply Unit State (Event δ) :=
  let (outcome, begins) := next () state.script.begins
  let buffers :=
    match outcome with
    | .ok () => .empty
    | _ => state.buffers
  { outcome
    state := { script := { state.script with begins }, buffers }
    events := [.beginFrame surface (locks.isHeld observed)] }

/-- The checksum of the bytes a descriptor describes. -/
def described (buffers : BufferStore UInt32) (descriptor : δ) : Option UInt32 :=
  (buffers.get? (DescriptorLayout.code descriptor)).map fun bytes =>
    crc32 (bytes.take (DescriptorLayout.dataSize descriptor).toNat)

def submitBuffers (observed : DeviceLock) (batch : List δ) (locks : Locks) (state : State) :
    Reply Unit State (Event δ) :=
  let (outcome, submits) := next () state.script.submits
  { outcome
    state := { state with script := { state.script with submits } }
    events :=
      [.submitBuffers (locks.isHeld observed)
        (batch.map fun descriptor => (descriptor, described state.buffers descriptor))] }

def endFrame (observed : DeviceLock) (locks : Locks) (state : State) :
    Reply Unit State (Event δ) :=
  let (outcome, ends) := next () state.script.ends
  { outcome
    state := { state with script := { state.script with ends } }
    events := [.endFrame (locks.isHeld observed)] }

/-- The scripted driver, which records whether `observed` is held at each call. -/
def driver (observed : DeviceLock) : Driver UInt32 NamedSurface δ State (Event δ) where
  getBuffer := getBuffer observed
  releaseBuffer := releaseBuffer observed
  beginFrame := beginFrame observed
  submitBuffers := submitBuffers observed
  endFrame := endFrame observed
  store code contents state := { state with buffers := state.buffers.put code contents }

end Scripted

end HardwareDecode
