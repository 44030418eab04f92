/-
Module: HardwareDecode.Backend.TextureArray
Purpose: The backend of a video context that decodes into slices of a texture array.  The context
  may have other users, and then comes with the lock that all of them take.
Main exports: TextureArray.backend
-/
import HardwareDecode.Backend
import HardwareDecode.Driver.Layout

namespace HardwareDecode.TextureArray

variable {S σ ο : Type}

/-- A video context, with the lock its users share and the slice of each surface. -/
def backend (driver : Driver UInt32 S ContextDescriptor σ ο) (lock : DeviceLock)
    (slice : S → UInt32) : Backend S σ ο where
  kind := .textureArray
  lock := lock
  surfaceIndex surface := some (slice surface)
  driver := driver.encoded BufferKind.code ContextDescriptor.ofDescriptor

end HardwareDecode.TextureArray
