/-
Module: HardwareDecode.Driver.Layout
Purpose: Descriptors in the forms in which the two driver interfaces take them.  A driver is told
  the kind, the size and the number of macroblocks; every other field stays zero.
Main exports: TableDescriptor, ContextDescriptor, DescriptorLayout
-/
import HardwareDecode.Buffer

namespace HardwareDecode

/-- A descriptor for a decoder device with a surface table. -/
structure TableDescriptor where
  compressedBufferType : UInt32 := 0
  bufferIndex : UInt32 := 0
  dataOffset : UInt32 := 0
  dataSize : UInt32 := 0
  firstMacroblock : UInt32 := 0
  macroblocks : UInt32 := 0
  width : UInt32 := 0
  height : UInt32 := 0
  stride : UInt32 := 0
  reservedBits : UInt32 := 0
deriving DecidableEq, Repr, Inhabited

/-- A descriptor for a video context. -/
structure ContextDescriptor where
  bufferType : UInt32 := 0
  bufferIndex : UInt32 := 0
  dataOffset : UInt32 := 0
  dataSize : UInt32 := 0
  firstMacroblock : UInt32 := 0
  macroblocks : UInt32 := 0
  width : UInt32 := 0
  height : UInt32 := 0
  stride : UInt32 := 0
  reservedBits : UInt32 := 0
  ivSize : UInt32 := 0
  partialEncryption : Bool := false
deriving DecidableEq, Repr, Inhabited

/-- The descriptor of a committed buffer for a decoder device. -/
def TableDescriptor.ofDescriptor (descriptor : Descriptor) : TableDescriptor :=
  { compressedBufferType := descriptor.kind.code
    dataSize := descriptor.dataSize
    macroblocks := descriptor.macroblocks }

/-- The descriptor of a committed buffer for a video context. -/
def ContextDescriptor.ofDescriptor (descriptor : Descriptor) : ContextDescriptor :=
  { bufferType := descriptor.kind.code
    dataSize := descriptor.dataSize
    macroblocks := descriptor.macroblocks }

/-- Forms of descriptors from which a driver can read what it needs. -/
class DescriptorLayout (δ : Type) where
  code : δ → UInt32
  dataSize : δ → UInt32
  macroblocks : δ → UInt32

instance : DescriptorLayout TableDescriptor where
  code := TableDescriptor.compressedBufferType
  dataSize := TableDescriptor.dataSize
  macroblocks := TableDescriptor.macroblocks

instance : DescriptorLayout ContextDescriptor where
  code := ContextDescriptor.bufferType
  dataSize := ContextDescriptor.dataSize
  macroblocks := ContextDescriptor.macroblocks

instance : DescriptorLayout Descriptor where
  code descriptor := descriptor.kind.code
  dataSize := Descriptor.dataSize
  macroblocks := Descriptor.macroblocks

end HardwareDecode
