/-
Module: HardwareDecode.Refusal
Purpose: Why a session cannot be opened or does not know a surface, and which interface serves
  which pixel format.
Main exports: Refusal, Refusal.message, PixelFormat.backend
-/
import HardwareDecode.Format

namespace HardwareDecode

/-- A request that a session refuses. -/
inductive Refusal where
  /-- No hardware serves the format. -/
  | softwareFormat (format : PixelFormat)
  /-- The format is served by the other interface. -/
  | wrongBackend (format : PixelFormat) (expected actual : BackendKind)
  /-- The surface is none of the session's. -/
  | foreignSurface
deriving DecidableEq, Repr, Inhabited

/-- The text of a refusal. -/
def Refusal.message : Refusal → String
  | .softwareFormat format => "no hardware backend handles pixel format " ++ format.text
  | .wrongBackend format expected actual =>
      "pixel format " ++ format.text ++ " requires a " ++ expected.text ++ " backend, got "
        ++ actual.text
  | .foreignSurface => "surface does not belong to this session"

/-- The one interface that serves a format. -/
def PixelFormat.backend : PixelFormat → Except Refusal BackendKind
  | .surfaceTable => .ok .surfaceTable
  | .textureArray => .ok .textureArray
  | format => .error (.softwareFormat format)

end HardwareDecode
