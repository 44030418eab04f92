/-
Module: HardwareDecode.Proofs.RecordingBackend
Purpose: The two backends over a recording driver.  The form in which descriptors reach the driver
  makes no difference to it, so both answer as one driver of plain descriptors does; its script
  never changes, and it keeps what it lent until the next frame begins.
Main exports: DescriptorLayout.Faithful, Recording.plain, Recording.Backs,
  Recording.Backs.driver_eq, Recording.Backs.script_serve, Recording.plain_keeps,
  Recording.inspectAll_eq_ok
-/
import HardwareDecode.Backend.SurfaceTable
import HardwareDecode.Backend.TextureArray
import HardwareDecode.Driver.Recording
import HardwareDecode.Proofs.PayloadIntegrity
import Mathlib.Data.List.Forall2

namespace HardwareDecode

variable {ν ο δ : Type} [DescriptorLayout δ]

/-- A driver reads from the form of a descriptor what the descriptor says. -/
structure DescriptorLayout.Faithful (layout : Descriptor → δ) : Prop where
  code : ∀ descriptor, DescriptorLayout.code (layout descriptor) = descriptor.kind.code
  dataSize : ∀ descriptor, DescriptorLayout.dataSize (layout descriptor) = descriptor.dataSize
  macroblocks : ∀ descriptor,
    DescriptorLayout.macroblocks (layout descriptor) = descriptor.macroblocks

theorem TableDescriptor.ofDescriptor_faithful :
    DescriptorLayout.Faithful TableDescriptor.ofDescriptor :=
  ⟨fun _ => rfl, fun _ => rfl, fun _ => rfl⟩

theorem ContextDescriptor.ofDescriptor_faithful :
    DescriptorLayout.Faithful ContextDescriptor.ofDescriptor :=
  ⟨fun _ => rfl, fun _ => rfl, fun _ => rfl⟩

namespace Recording

variable {observed : DeviceLock}

/-! ### One driver behind both interfaces -/

theorem inspect_layout {layout : Descriptor → δ} (faithful : DescriptorLayout.Faithful layout)
    (buffers : BufferStore BufferKind) (descriptor : Descriptor) :
    inspect buffers (layout descriptor) = inspect buffers descriptor := by
  simp only [inspect, faithful.code, faithful.dataSize, faithful.macroblocks]
  rfl

theorem inspectAll_map {layout : Descriptor → δ} (faithful : DescriptorLayout.Faithful layout)
    (buffers : BufferStore BufferKind) (batch : List Descriptor) :
    inspectAll buffers (batch.map layout) = inspectAll buffers batch := by
  induction batch with
  | nil => rfl
  | cons descriptor batch inductionHypothesis =>
      simp only [List.map_cons, inspectAll, inspect_layout faithful, inductionHypothesis]

/-- The recording driver of plain descriptors. -/
def plain (observed : DeviceLock) : Driver BufferKind UInt32 Descriptor (InFlight × State) ο :=
  (driver observed).encoded BufferKind.code id

theorem encoded_eq_plain {layout : Descriptor → δ} (faithful : DescriptorLayout.Faithful layout) :
    ((driver observed).encoded BufferKind.code layout :
        Driver BufferKind UInt32 Descriptor (InFlight × State) ο) = plain observed := by
  have submits : ∀ batch : List Descriptor,
      (submitBuffers observed (batch.map layout) : Locks → InFlight × State → Reply Unit _ ο) =
        submitBuffers observed (batch.map id) := by
    intro batch
    funext locks state
    simp only [submitBuffers, List.map_id, inspectAll_map faithful]
  simp only [plain, Driver.encoded, driver, submits]

/-- The backends over a recording driver. -/
inductive Backs (observed : DeviceLock) : Backend UInt32 (InFlight × State) ο → Prop where
  | surfaceTable (table : SurfaceTable UInt32) : Backs observed (table.backend (driver observed))
  | textureArray (lock : DeviceLock) (slice : UInt32 → UInt32) :
      Backs observed (TextureArray.backend (driver observed) lock slice)

/-- A video context over a recording driver that observes the lock of its users. -/
def observedContext : Backend UInt32 (InFlight × State) Empty :=
  TextureArray.backend (driver (.mutex 0)) (.mutex 0) id

theorem Backs.driver_eq {backend : Backend UInt32 (InFlight × State) ο}
    (backs : Backs observed backend) : backend.driver = plain observed := by
  cases backs with
  | surfaceTable => exact encoded_eq_plain TableDescriptor.ofDescriptor_faithful
  | textureArray => exact encoded_eq_plain ContextDescriptor.ofDescriptor_faithful

/-! ### Replies of the driver -/

section

variable {kind : BufferKind} {locks : Locks} {state : InFlight × State}

/-- The contents with which the buffer of a kind is lent. -/
def State.lent (state : State) (kind : BufferKind) : Bytes :=
  (state.buffers.get? kind).getD (List.replicate (state.script.capacityOf kind) 0)

theorem plain_getBuffer_of_some {status : Status}
    (refused : failing state.2.script.getStatus kind = some status) :
    ((plain observed).getBuffer kind locks state : Reply Bytes _ ο) =
      { outcome := .failed status
        state := (state.1, state.2.record observed locks (.getBuffer kind)) } := by
  simp only [plain, Driver.encoded, driver, getBuffer, BufferKind.ofCode_code, State.record,
    refused]

theorem plain_getBuffer_of_none (granted : failing state.2.script.getStatus kind = none) :
    ((plain observed).getBuffer kind locks state : Reply Bytes _ ο) =
      { outcome := .ok (state.2.lent kind)
        state :=
          (state.1,
            { state.2.record observed locks (.getBuffer kind) with
              buffers := state.2.buffers.put kind (state.2.lent kind) }) } := by
  simp only [plain, Driver.encoded, driver, getBuffer, BufferKind.ofCode_code, State.record,
    granted, State.lent]

theorem plain_releaseBuffer :
    ((plain observed).releaseBuffer kind locks state : Reply Unit _ ο) =
      { outcome := answer (failing state.2.script.releaseStatus kind)
        state := (state.1, state.2.record observed locks (.releaseBuffer kind)) } := by
  simp only [plain, Driver.encoded, driver, releaseBuffer, BufferKind.ofCode_code]

theorem plain_store {contents : Bytes} :
    (plain observed : Driver BufferKind UInt32 Descriptor _ ο).store kind contents state =
      (state.1, { state.2 with buffers := state.2.buffers.put kind contents }) := by
  simp only [plain, Driver.encoded, driver, store, BufferKind.ofCode_code]

end

/-! ### What the driver keeps -/

/-- The buffers the driver keeps. -/
def stored (driver : InFlight × State) (kind : BufferKind) : Option Bytes :=
  driver.2.buffers.get? kind

theorem stored_put {inFlight : InFlight} {state : State} {kind : BufferKind} {bytes : Bytes} :
    stored (inFlight, { state with buffers := state.buffers.put kind bytes }) =
      fun other => if other = kind then some bytes else stored (inFlight, state) other := by
  funext other
  simp only [stored]
  split
  next same => rw [same, BufferStore.get?_put_self]
  next distinct => exact BufferStore.get?_put_of_ne _ _ distinct

theorem plain_keeps :
    (plain observed : Driver BufferKind UInt32 Descriptor (InFlight × State) ο).Keeps stored where
  getBuffer kind locks state := by
    cases refused : failing state.2.script.getStatus kind with
    | none =>
        rw [plain_getBuffer_of_none refused]
        exact stored_put
    | some status =>
        rw [plain_getBuffer_of_some refused]
        rfl
  releaseBuffer kind locks state := by
    rw [plain_releaseBuffer]
    rfl
  beginFrame surface locks state := by
    simp only [plain, Driver.encoded, driver, beginFrame]
    split
    · rfl
    · split <;> rfl
  submitBuffers batch locks state := by
    simp only [plain, Driver.encoded, driver, submitBuffers]
    split
    · rfl
    · rfl
    · split <;> rfl
  endFrame _ _ := rfl
  store kind contents state := by
    rw [plain_store]
    exact stored_put

/-- A buffer that is kept is lent again as it is. -/
theorem plain_lends_again {kind : BufferKind} {locks : Locks} {state : InFlight × State}
    {lent kept : Bytes} (known : stored state kind = some kept)
    (answered : ((plain observed).getBuffer kind locks state : Reply Bytes _ ο).outcome =
      .ok lent) : lent = kept := by
  cases refused : failing state.2.script.getStatus kind with
  | none =>
      rw [plain_getBuffer_of_none refused] at answered
      have found : state.2.buffers.get? kind = some kept := known
      rw [State.lent, found, Option.getD_some] at answered
      exact (Outcome.ok.inj answered).symm
  | some status =>
      rw [plain_getBuffer_of_some refused] at answered
      cases answered

/-! ### The script -/

/-- No call changes the script. -/
theorem script_reply {backend : Backend UInt32 (InFlight × State) ο}
    (backs : Backs observed backend) {call : HardwareDecode.Call UInt32} {locks : Locks}
    {state : InFlight × State} :
    (backend.reply call locks state).state.2.script = state.2.script := by
  cases call with
  | getBuffer kind =>
      simp only [Backend.reply, backs.driver_eq]
      cases refused : failing state.2.script.getStatus kind with
      | none => rw [plain_getBuffer_of_none refused]; rfl
      | some status => rw [plain_getBuffer_of_some refused]; rfl
  | releaseBuffer kind =>
      simp only [Backend.reply, backs.driver_eq]
      rw [plain_releaseBuffer]
      rfl
  | beginFrame surface =>
      simp only [Backend.reply, backs.driver_eq, plain, Driver.encoded, driver, beginFrame]
      split
      · rfl
      · split <;> rfl
  | submitBuffers batch =>
      simp only [Backend.reply, backs.driver_eq, plain, Driver.encoded, driver, submitBuffers]
      split
      · rfl
      · rfl
      · split <;> rfl
  | endFrame =>
      simp only [Backend.reply, backs.driver_eq]
      rfl

/-- No request changes the script. -/
theorem Backs.script_serve {backend : Backend UInt32 (InFlight × State) ο}
    (backs : Backs observed backend) {request : Request UInt32 ν}
    {world : World (InFlight × State)}
    {served : Served request.Answer (World (InFlight × State)) (Entry ο ν)}
    (answered : backend.serve request world = some served) :
    served.world.driver.2.script = world.driver.2.script := by
  cases request with
  | call call =>
      cases answered
      exact script_reply backs
  | store kind contents =>
      cases answered
      simp only [backs.driver_eq, plain_store]
  | acquire lock =>
      obtain ⟨locks, _, rfl⟩ := Option.map_eq_some_iff.mp answered
      rfl
  | abort => cases answered
  | _ =>
      cases answered
      rfl

/-! ### Executed batches -/

/-- The entry shows a commit: its kind, the size and the checksum of its payload, and its number of
macroblocks. -/
structure Submitted.Shows (entry : Submitted) (commit : Commit) : Prop where
  kind : entry.kind = commit.kind
  dataSize : entry.dataSize.toNat = commit.payload.length
  macroblocks : entry.macroblocks = commit.macroblocks
  checksum : entry.checksum = crc32 commit.payload

/-- A batch of commits that are all stored has no fault, and shows these commits. -/
theorem inspectAll_eq_ok {driver : InFlight × State} {commits : List Commit}
    (kept : ∀ commit ∈ commits, commit.StoredIn (stored driver)) :
    ∃ entries, inspectAll driver.2.buffers (commits.map Commit.descriptor) = .ok entries ∧
      List.Forall₂ Submitted.Shows entries commits := by
  induction commits with
  | nil => exact ⟨[], rfl, .nil⟩
  | cons commit commits inductionHypothesis =>
      obtain ⟨size, bytes, found, starts⟩ := kept commit (List.mem_cons_self ..)
      obtain ⟨entries, inspected, shown⟩ :=
        inductionHypothesis fun later member => kept later (List.mem_cons_of_mem _ member)
      have known : driver.2.buffers.get? commit.descriptor.kind = some bytes := found
      have bound : commit.payload.length ≤ bytes.length := by
        have length := congrArg List.length starts
        rw [List.length_take] at length
        omega
      refine ⟨{ kind := commit.kind
                dataSize := commit.descriptor.dataSize
                macroblocks := commit.macroblocks
                checksum := crc32 commit.payload } :: entries, ?_, ?_⟩
      · have first : inspect driver.2.buffers commit.descriptor =
            .ok
              { kind := commit.kind
                dataSize := commit.descriptor.dataSize
                macroblocks := commit.macroblocks
                checksum := crc32 commit.payload } := by
          simp only [inspect, DescriptorLayout.code, BufferKind.ofCode_code, known,
            DescriptorLayout.dataSize, size, bound, ↓reduceIte, starts,
            DescriptorLayout.macroblocks]
          rfl
        simp only [List.map_cons, inspectAll, first, inspected]
      · exact .cons ⟨rfl, size, rfl, rfl⟩ shown

end Recording

end HardwareDecode
