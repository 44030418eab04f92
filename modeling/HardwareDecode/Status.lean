/-
Module: HardwareDecode.Status
Purpose: The numeric status with which a driver reports a failure.
Main exports: Status, Status.pending, Status.invalidArgument, Status.isPending, Status.text
-/
import HardwareDecode.Text.Hex

namespace HardwareDecode

/-- A failing status.  Success is never a status, so zero is a failure like any other code. -/
structure Status where
  code : Int32
deriving DecidableEq, Repr, Inhabited

namespace Status

/-- The hardware is busy and the call may be tried again shortly. -/
def pending : Status := ⟨-2147483638⟩

/-- One of the arguments is not valid. -/
def invalidArgument : Status := ⟨-2147024809⟩

/-- Whether this is the one transient status. -/
def isPending (status : Status) : Bool := status == pending

/-- The code as 32 bits in two's complement, in eight hexadecimal digits. -/
def text (status : Status) : String :=
  Hex.padded 8 status.code.toUInt32.toNat

theorem isPending_iff (status : Status) : status.isPending = true ↔ status = pending := by
  simp [isPending]

example : pending.text = "0x8000000a" := by decide
example : (⟨16⟩ : Status).text = "0x00000010" := by decide

end Status

end HardwareDecode
