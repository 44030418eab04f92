/-
Module: HardwareDecode.Panic
Purpose: Programming errors that unwind a submission instead of failing it.
Main exports: Panic, Panic.text
-/
import HardwareDecode.Buffer

namespace HardwareDecode

/-- Why a computation unwinds. -/
inductive Panic where
  /-- A driver or an assembler gave up with a text of its own. -/
  | message (text : String)
  /-- The batch holds another number of buffers than the frame needs. -/
  | batchLength (committed : List BufferKind)
  /-- The batch does not end with the bitstream and the slice control data. -/
  | batchOrder (committed : List BufferKind)
  /-- More bytes of a buffer were described than it has. -/
  | outOfRange
deriving DecidableEq, Repr, Inhabited

/-- The message of a panic.  For `batchLength` it is the message that the check was given, which is
reported behind the words of a failed comparison and in front of the two lengths; `range` stands for
the report on a slice that asks for more bytes than there are. -/
def Panic.text : Panic → String
  | .message text => text
  | .batchLength committed =>
      "unexpected number of committed buffers: " ++ BufferKind.listText committed
  | .batchOrder committed =>
      "bitstream assembler must commit bitstream then slice control, got "
        ++ BufferKind.listText committed
  | .outOfRange => "range"

end HardwareDecode
