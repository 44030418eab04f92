/-
Module: HardwareDecode.Format
Purpose: Output pixel formats, and the two driver interfaces that serve them.
Main exports: PixelFormat, BackendKind, BackendKind.usesDeviceLock
-/

namespace HardwareDecode

/-- Output pixel formats a session can be opened for. -/
inductive PixelFormat where
  /-- Hardware surfaces from a fixed table the driver enumerates. -/
  | surfaceTable
  /-- Hardware surfaces that are slices of a texture array. -/
  | textureArray
  /-- Eight-bit planes in memory, with no hardware behind them. -/
  | nv12
  /-- Ten-bit planes in memory, with no hardware behind them. -/
  | p010
deriving DecidableEq, Repr, Inhabited

/-- The name of the format in messages. -/
def PixelFormat.text : PixelFormat → String
  | .surfaceTable => "BufferApiV1Vld"
  | .textureArray => "BufferApiV2Vld"
  | .nv12 => "Nv12"
  | .p010 => "P010"

/-- The shape of the driver interface behind a session. -/
inductive BackendKind where
  /-- A decoder device with a fixed surface table. -/
  | surfaceTable
  /-- A video context that decodes into a texture array. -/
  | textureArray
deriving DecidableEq, Repr, Inhabited

namespace BackendKind

/-- The name of the interface in messages. -/
def text : BackendKind → String
  | surfaceTable => "BufferApiV1"
  | textureArray => "BufferApiV2"

/-- Whether sessions of this kind serialise their access to the device themselves. -/
def usesDeviceLock : BackendKind → Bool
  | surfaceTable => false
  | textureArray => true

end BackendKind

end HardwareDecode
