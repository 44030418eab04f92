/-
Module: HardwareDecode.Buffer.Store
Purpose: The buffers a driver keeps, at most one for each key.
Main exports: BufferStore, BufferStore.get?, BufferStore.put
-/
import HardwareDecode.Buffer

namespace HardwareDecode

/-- Stored buffers by key. -/
structure BufferStore (κ : Type) where
  entries : List (κ × Bytes) := []

namespace BufferStore

variable {κ : Type} [DecidableEq κ]

/-- No buffers. -/
def empty : BufferStore κ := {}

/-- The stored buffer of a key. -/
def get? (store : BufferStore κ) (key : κ) : Option Bytes :=
  (store.entries.find? fun entry => entry.1 = key).map Prod.snd

/-- Store a buffer in place of what its key held. -/
def put (store : BufferStore κ) (key : κ) (bytes : Bytes) : BufferStore κ :=
  ⟨(key, bytes) :: store.entries.filter fun entry => entry.1 ≠ key⟩

@[simp] theorem get?_empty (key : κ) : (empty : BufferStore κ).get? key = none := rfl

@[simp] theorem get?_put_self (store : BufferStore κ) (key : κ) (bytes : Bytes) :
    (store.put key bytes).get? key = some bytes := by
  simp [get?, put]

theorem get?_put_of_ne (store : BufferStore κ) {key other : κ} (bytes : Bytes)
    (distinct : other ≠ key) : (store.put key bytes).get? other = store.get? other := by
  have skipped : ∀ entry ∈ store.entries, entry.1 = other → entry.1 ≠ key := by
    rintro entry _ rfl
    exact distinct
  simp only [get?, put]
  rw [List.find?_cons_of_neg (by simpa using fun equal => distinct equal.symm)]
  congr 1
  rw [List.find?_filter]
  congr 1
  funext entry
  by_cases equal : entry.1 = other
  · simp [equal, distinct]
  · simp [equal]

end BufferStore

end HardwareDecode
