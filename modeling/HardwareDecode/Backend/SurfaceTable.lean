/-
Module: HardwareDecode.Backend.SurfaceTable
Purpose: The backend of a decoder device with a fixed table of surfaces.  Such a device serialises
  its calls itself, so its sessions have no lock to take.
Main exports: SurfaceTable, SurfaceTable.index?, SurfaceTable.backend
-/
import HardwareDecode.Backend
import HardwareDecode.Driver.Layout

namespace HardwareDecode

/-- The surfaces a decoder was created with, in the driver's order. -/
structure SurfaceTable (S : Type) where
  surfaces : List S
deriving Repr, Inhabited

namespace SurfaceTable

variable {S σ ο : Type}

/-- The place of the first surface in the table that equals a given one, if 32 bits hold it. -/
def index? [BEq S] (table : SurfaceTable S) (surface : S) : Option UInt32 :=
  match table.surfaces.findIdx? (· == surface) with
  | some index => if index < UInt32.size then some (UInt32.ofNat index) else none
  | none => none

/-- A decoder device with the surfaces of the table. -/
def backend [BEq S] (table : SurfaceTable S) (driver : Driver UInt32 S TableDescriptor σ ο) :
    Backend S σ ο where
  kind := .surfaceTable
  lock := .absent
  surfaceIndex := table.index?
  driver := driver.encoded BufferKind.code TableDescriptor.ofDescriptor

end SurfaceTable

end HardwareDecode
