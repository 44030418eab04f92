/-
Module: HardwareDecode.Buffer
Purpose: Kinds of decode buffer with their codes, bytes lent by the driver, and descriptors of
  committed buffers.
Main exports: Bytes, Bytes.overlay, BufferKind, BufferKind.code, BufferKind.ofCode, Descriptor
-/
import HardwareDecode.Status

namespace HardwareDecode

/-- The contents of a buffer or a payload. -/
abbrev Bytes := List UInt8

/-- `payload` written at the start of `lent`: the bytes behind the payload stay as they were. -/
def Bytes.overlay (lent payload : Bytes) : Bytes :=
  payload ++ lent.drop payload.length

theorem Bytes.length_overlay {lent payload : Bytes} (fits : payload.length ≤ lent.length) :
    (lent.overlay payload).length = lent.length := by
  simp only [Bytes.overlay, List.length_append, List.length_drop]
  omega

/-- The kinds of buffer a frame is built from. -/
inductive BufferKind where
  | pictureParameters
  | inverseQuantizationMatrix
  | sliceControl
  | bitstream
deriving DecidableEq, Repr, Inhabited

namespace BufferKind

/-- The code of the kind in both driver interfaces. -/
def code : BufferKind → UInt32
  | pictureParameters => 0
  | inverseQuantizationMatrix => 4
  | sliceControl => 5
  | bitstream => 6

/-- The kind with a given code.  Every other code is an invalid argument. -/
def ofCode (code : UInt32) : Except Status BufferKind :=
  if code = 0 then .ok pictureParameters
  else if code = 4 then .ok inverseQuantizationMatrix
  else if code = 5 then .ok sliceControl
  else if code = 6 then .ok bitstream
  else .error .invalidArgument

/-- The name of the kind in messages. -/
def text : BufferKind → String
  | pictureParameters => "PictureParameters"
  | inverseQuantizationMatrix => "InverseQuantizationMatrix"
  | sliceControl => "SliceControl"
  | bitstream => "Bitstream"

/-- A list of kinds in messages: in brackets, separated by commas. -/
def listText (kinds : List BufferKind) : String :=
  "[" ++ String.intercalate ", " (kinds.map text) ++ "]"

@[simp] theorem ofCode_code (kind : BufferKind) : ofCode kind.code = .ok kind := by
  cases kind <;> rfl

theorem ofCode_eq_ok_iff {raw : UInt32} {kind : BufferKind} :
    ofCode raw = .ok kind ↔ raw = kind.code := by
  constructor
  · intro decoded
    simp only [ofCode] at decoded
    split at decoded
    · cases decoded; assumption
    split at decoded
    · cases decoded; assumption
    split at decoded
    · cases decoded; assumption
    split at decoded
    · cases decoded; assumption
    · cases decoded
  · rintro rfl
    exact ofCode_code kind

theorem code_injective {first second : BufferKind} (same : first.code = second.code) :
    first = second := by
  have decoded := ofCode_code first
  rw [same, ofCode_code] at decoded
  exact (Except.ok.inj decoded).symm

end BufferKind

/-- One committed buffer of a batch. -/
structure Descriptor where
  kind : BufferKind
  /-- The number of payload bytes written. -/
  dataSize : UInt32
  macroblocks : UInt32
deriving DecidableEq, Repr, Inhabited

end HardwareDecode
