/-
Module: HardwareDecode.Proofs.Shelf
Purpose: The buffers a driver keeps while a frame is put together.  Each commit leaves its payload
  in the buffer of its kind, so that the last payload of every kind can be found there.
Main exports: Shelf, shelving, Commit, Shelf.Holds, Shelf.Holds.push, commit_shelved
-/
import HardwareDecode.Proofs.Dialogue
import HardwareDecode.Proofs.Framing

namespace HardwareDecode

variable {S ν : Type}

/-- The stored buffer of every kind, and whether a batch was submitted. -/
structure Shelf where
  stored : BufferKind → Option Bytes
  submitted : Bool := false

namespace Shelf

/-- The shelf with another buffer of a kind. -/
def put (shelf : Shelf) (kind : BufferKind) (bytes : Bytes) : Shelf :=
  { shelf with stored := fun other => if other = kind then some bytes else shelf.stored other }

@[simp] theorem stored_put_self (shelf : Shelf) (kind : BufferKind) (bytes : Bytes) :
    (shelf.put kind bytes).stored kind = some bytes := by
  simp [put]

theorem stored_put_of_ne (shelf : Shelf) {kind other : BufferKind} (bytes : Bytes)
    (distinct : other ≠ kind) : (shelf.put kind bytes).stored other = shelf.stored other := by
  simp [put, distinct]

@[simp] theorem put_put (shelf : Shelf) (kind : BufferKind) (first second : Bytes) :
    (shelf.put kind first).put kind second = shelf.put kind second := by
  simp only [put, mk.injEq, and_true]
  funext other
  by_cases same : other = kind <;> simp [same]

/-- The shelf after an answered request: a lent buffer is kept, a frame that begins finds no
buffers. -/
def next : Shelf → (request : Request S ν) → request.Answer → Shelf
  | shelf, .call (.getBuffer kind), .ok lent => shelf.put kind lent
  | shelf, .store kind contents, _ => shelf.put kind contents
  | shelf, .call (.beginFrame _), .ok _ => { shelf with stored := fun _ => none }
  | shelf, .call (.submitBuffers _), _ => { shelf with submitted := true }
  | shelf, _, _ => shelf

end Shelf

/-- Everything is allowed, and batches are submitted only as `judge` permits. -/
def shelving (judge : Shelf → List Descriptor → Prop) : Protocol S ν Shelf where
  allows
    | shelf, .call (.submitBuffers batch) => judge shelf batch
    | _, _ => True
  next := Shelf.next

/-- A payload with what it is committed as. -/
structure Commit where
  kind : BufferKind
  payload : Bytes
  macroblocks : UInt32

/-- The descriptor of a commit that succeeds. -/
def Commit.descriptor (commit : Commit) : Descriptor :=
  commit.payload.describe commit.kind commit.macroblocks

/-- The payload of a commit is described in full, and stands at the start of its buffer. -/
def Commit.StoredIn (commit : Commit) (stored : BufferKind → Option Bytes) : Prop :=
  commit.descriptor.dataSize.toNat = commit.payload.length ∧
    ∃ bytes, stored commit.kind = some bytes ∧
      bytes.take commit.payload.length = commit.payload

/-- The last commit of every kind is stored. -/
def Shelf.Holds (shelf : Shelf) (commits : List Commit) : Prop :=
  ∀ ⦃front commit back⦄, commits = front ++ commit :: back →
    (∀ later ∈ back, later.kind ≠ commit.kind) → commit.StoredIn shelf.stored

namespace Shelf

theorem Holds.nil (shelf : Shelf) : shelf.Holds [] := by
  intro front commit back same
  simp at same

theorem Holds.push {shelf : Shelf} {commits : List Commit} (holds : shelf.Holds commits)
    {commit : Commit} {bytes : Bytes} (size : commit.payload.length < UInt32.size)
    (starts : bytes.take commit.payload.length = commit.payload) :
    (shelf.put commit.kind bytes).Holds (commits ++ [commit]) := by
  intro front found back same others
  rcases List.eq_nil_or_concat back with rfl | ⟨between, last, rfl⟩
  · have ends : [commit] = [found] := (List.append_inj' same rfl).2
    cases ends
    exact ⟨UInt32.toNat_ofNat_of_lt size, bytes, stored_put_self .., starts⟩
  · -- A kind that is committed again does not count, so the new buffer is of another kind.
    rw [List.concat_eq_append, ← List.cons_append, ← List.append_assoc] at same
    obtain ⟨early, ends⟩ := List.append_inj' same rfl
    cases ends
    have distinct : found.kind ≠ commit.kind := by
      intro equal
      exact others commit (by simp) equal.symm
    have before : found.StoredIn shelf.stored := by
      apply holds early
      intro later member
      exact others later (by simp [member])
    obtain ⟨described, stored, kept, starts⟩ := before
    exact ⟨described, stored, by rw [stored_put_of_ne shelf bytes distinct, kept], starts⟩

/-- If no kind was committed twice, every commit is stored. -/
theorem Holds.storedIn {shelf : Shelf} {commits : List Commit} (holds : shelf.Holds commits)
    (once : (commits.map Commit.kind).Nodup) :
    ∀ commit ∈ commits, commit.StoredIn shelf.stored := by
  intro commit member
  obtain ⟨front, back, rfl⟩ := List.append_of_mem member
  apply holds rfl
  intro later found same
  simp only [List.map_append, List.map_cons, List.nodup_append, List.nodup_cons] at once
  exact once.2.1.1 (same ▸ List.mem_map_of_mem found)

end Shelf

open HardwareDecode.Action

variable {judge : Shelf → List Descriptor → Prop}

theorem fill_shelved {kind : BufferKind} {payload lent : Bytes} {macroblocks : UInt32}
    {shelf : Shelf} :
    (fill kind payload lent macroblocks : Action S ν Descriptor).run.Obeys (shelving judge)
      (fun after result => after.submitted = shelf.submitted ∧
        ∀ descriptor, result = .ok descriptor →
          payload.length < UInt32.size ∧ descriptor = payload.describe kind macroblocks ∧
            after = shelf.put kind (lent.overlay payload)) shelf := by
  unfold fill
  split
  next fits =>
    refine obeys_bind.mpr (obeys_store.mpr ⟨trivial, fun _ _ => ?_⟩)
    refine obeys_bind.mpr (obeys_log.mpr ⟨trivial, fun _ _ => obeys_pure.mpr ⟨rfl, ?_⟩⟩)
    intro descriptor same
    cases same
    exact ⟨fits.1, rfl, rfl⟩
  next =>
    exact obeys_bind.mpr (obeys_log.mpr ⟨trivial, fun _ _ => obeys_fail.mpr ⟨rfl, nofun⟩⟩)

theorem commit_shelved {kind : BufferKind} {payload : Bytes} {macroblocks : UInt32}
    {shelf : Shelf} :
    (commit kind payload macroblocks : Action S ν Descriptor).run.Obeys (shelving judge)
      (fun after result => after.submitted = shelf.submitted ∧
        ∀ descriptor, result = .ok descriptor →
          payload.length < UInt32.size ∧ descriptor = payload.describe kind macroblocks ∧
            ∃ bytes, bytes.take payload.length = payload ∧ after = shelf.put kind bytes)
      shelf := by
  rw [commit, obeys_bind, obeys_call]
  refine ⟨trivial, fun got _ => ?_⟩
  cases got with
  | failed status =>
      exact obeys_bind.mpr (obeys_log.mpr ⟨trivial, fun _ _ => obeys_fail.mpr ⟨rfl, nofun⟩⟩)
  | panicked cause => exact ⟨rfl, nofun⟩
  | ok lent =>
      apply obeys_bind.mpr
      apply obeys_attempt.mpr
      apply fill_shelved.weaken
      rintro after filled ⟨unsubmitted, described⟩
      rcases filled with (error | cause) | descriptor
      · refine obeys_bind.mpr (obeys_call.mpr ⟨trivial, fun released _ => ?_⟩)
        cases released with
        | ok _ => exact obeys_fail.mpr ⟨unsubmitted, nofun⟩
        | failed status =>
            refine obeys_bind.mpr (obeys_log.mpr ⟨trivial, fun _ _ => ?_⟩)
            exact obeys_fail.mpr ⟨unsubmitted, nofun⟩
        | panicked cause => exact ⟨unsubmitted, nofun⟩
      · exact ⟨unsubmitted, nofun⟩
      · obtain ⟨size, rfl, rfl⟩ := described descriptor rfl
        have starts : (lent.overlay payload).take payload.length = payload :=
          List.take_left
        refine obeys_bind.mpr (obeys_call.mpr ⟨trivial, fun released _ => ?_⟩)
        cases released with
        | ok _ =>
            refine obeys_pure.mpr ⟨unsubmitted, ?_⟩
            intro descriptor same
            cases same
            exact ⟨size, rfl, _, starts, Shelf.put_put ..⟩
        | failed status =>
            refine obeys_bind.mpr (obeys_log.mpr ⟨trivial, fun _ _ => ?_⟩)
            exact obeys_fail.mpr ⟨unsubmitted, nofun⟩
        | panicked cause => exact ⟨unsubmitted, nofun⟩

end HardwareDecode
