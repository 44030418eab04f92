/-
Module: HardwareDecode.Checksum
Purpose: The 32-bit cyclic redundancy check of IEEE 802.3, with which a driver records what a
  buffer held.
Main exports: crc32
-/
import HardwareDecode.Buffer

namespace HardwareDecode

namespace Crc32

/-- The generating polynomial, lowest power in the highest bit. -/
def polynomial : UInt32 := 0xedb88320

/-- Divide out one bit. -/
def shift (register : UInt32) : UInt32 :=
  if register &&& 1 = 1 then (register >>> 1) ^^^ polynomial else register >>> 1

/-- Take in one byte, lowest bit first. -/
def step (register : UInt32) (byte : UInt8) : UInt32 :=
  let register := register ^^^ byte.toUInt32
  shift <| shift <| shift <| shift <| shift <| shift <| shift <| shift register

end Crc32

/-- The checksum of `bytes`, with the register complemented before the first byte and after the
last one.  The checksum of no bytes is therefore zero. -/
def crc32 (bytes : Bytes) : UInt32 :=
  bytes.foldl Crc32.step 0xffffffff ^^^ 0xffffffff

@[simp] theorem crc32_nil : crc32 [] = 0 := rfl

/-- The check value of the standard, of the digits one to nine. -/
example : crc32 [49, 50, 51, 52, 53, 54, 55, 56, 57] = 0xcbf43926 := by decide +kernel

end HardwareDecode
