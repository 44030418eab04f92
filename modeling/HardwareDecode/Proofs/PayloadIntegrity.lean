/-
Module: HardwareDecode.Proofs.PayloadIntegrity
Purpose: What a driver is given to execute.  If an assembler gives up at its first failed commit, an
  executed batch describes the payloads of the frame in their order, and the buffers of the driver
  hold these payloads at that moment.
Main exports: Assembler.StopsAtFailure, Assembler.Commits, Frame.Carries, submit_shelved,
  Driver.Keeps, Scripted.Backs, executed_batch_carries_payloads
-/
import HardwareDecode.Backend.Forwarding
import HardwareDecode.Backend.SurfaceTable
import HardwareDecode.Backend.TextureArray
import HardwareDecode.Driver.Scripted
import HardwareDecode.Proofs.Shelf

namespace HardwareDecode

variable {S ν σ ο : Type}

namespace Assembler

/-- The strategy does nothing more than fail with a given error. -/
def Returns (error : FrameError) : Assembler ν → Prop
  | fail given => given = error
  | inspect next => ∀ descriptors, (next descriptors).Returns error
  | note _ next => next.Returns error
  | finish | panic _ | commit _ _ _ _ => False

/-- The strategy fails with the error of the first commit that fails. -/
def StopsAtFailure : Assembler ν → Prop
  | finish | fail _ | panic _ => True
  | commit _ _ _ next =>
      (∀ error, (next (.error error)).Returns error) ∧
        ∀ descriptor, (next (.ok descriptor)).StopsAtFailure
  | inspect next => ∀ descriptors, (next descriptors).StopsAtFailure
  | note _ next => next.StopsAtFailure

/-- Behind a list of descriptors, and as long as its commits succeed, the strategy makes these
commits and finishes. -/
inductive Commits : Assembler ν → List Descriptor → List Commit → Prop where
  | finish (before : List Descriptor) : Commits .finish before []
  | commit {made : Commit} {next : Except FrameError Descriptor → Assembler ν}
      {before : List Descriptor} {commits : List Commit}
      (later : Commits (next (.ok made.descriptor)) (before ++ [made.descriptor]) commits) :
      Commits (.commit made.kind made.payload made.macroblocks next) before (made :: commits)
  | inspect {next : List Descriptor → Assembler ν} {before : List Descriptor}
      {commits : List Commit} (later : Commits (next before) before commits) :
      Commits (.inspect next) before commits
  | note {mark : ν} {next : Assembler ν} {before : List Descriptor} {commits : List Commit}
      (later : Commits next before commits) : Commits (.note mark next) before commits

/-- The plain strategy for a list of commits. -/
def committing : List Commit → Assembler ν
  | [] => finish
  | made :: commits =>
      commit made.kind made.payload made.macroblocks fun
        | .ok _ => committing commits
        | .error error => fail error

theorem committing_stopsAtFailure (commits : List Commit) :
    (committing commits : Assembler ν).StopsAtFailure := by
  induction commits with
  | nil => trivial
  | cons made commits inductionHypothesis => exact ⟨fun _ => rfl, fun _ => inductionHypothesis⟩

end Assembler

namespace Frame

/-- The commits of the session itself. -/
def ownCommits (frame : Frame S ν) : List Commit :=
  { kind := .pictureParameters, payload := frame.pictureParameters, macroblocks := 0 } ::
    if frame.quantMatrix.isEmpty then []
    else
      [{ kind := .inverseQuantizationMatrix, payload := frame.quantMatrix, macroblocks := 0 }]

/-- The batch describes the frame's own commits and then two of its assembler, a bitstream and the
slice control data, and all their payloads are stored. -/
def Carries (frame : Frame S ν) (batch : List Descriptor)
    (stored : BufferKind → Option Bytes) : Prop :=
  ∃ bitstream slices : Commit,
    bitstream.kind = .bitstream ∧ slices.kind = .sliceControl ∧
      frame.assembler.Commits (frame.ownCommits.map Commit.descriptor) [bitstream, slices] ∧
        batch = (frame.ownCommits ++ [bitstream, slices]).map Commit.descriptor ∧
          ∀ commit ∈ frame.ownCommits ++ [bitstream, slices], commit.StoredIn stored

/-- A batch is submitted once, and only if it carries the frame. -/
def mayExecute (frame : Frame S ν) (shelf : Shelf) (batch : List Descriptor) : Prop :=
  shelf.submitted = false ∧ frame.Carries batch shelf.stored

end Frame

open HardwareDecode.Action

variable {judge : Shelf → List Descriptor → Prop}

theorem shelving_ignoresLogs : (shelving judge : Protocol S ν Shelf).IgnoresLogs where
  allowed _ _ := trivial
  kept _ _ _ := rfl

/-- The commits so far have left these descriptors, and are stored. -/
structure Batch.Records (batch : Batch) (shelf : Shelf) (commits : List Commit) : Prop where
  descriptors : batch.descriptors = commits.map Commit.descriptor
  holds : shelf.Holds commits
  unsubmitted : shelf.submitted = false

theorem add_shelved {batch : Batch} (commit : Commit) {shelf : Shelf} {commits : List Commit}
    (records : batch.Records shelf commits) :
    (batch.add commit.kind commit.payload commit.macroblocks : Action S ν _).run.Obeys
      (shelving judge)
      (fun after result => ∀ answer later, result = .ok (answer, later) →
        (∃ error, answer = .error error) ∨
          answer = .ok commit.descriptor ∧ later.Records after (commits ++ [commit])) shelf := by
  rw [Batch.add, obeys_bind, obeys_attempt]
  apply commit_shelved.weaken
  rintro after result ⟨unsubmitted, described⟩
  rcases result with (error | cause) | descriptor
  · apply obeys_pure.mpr
    intro answer later same
    cases same
    exact .inl ⟨error, rfl⟩
  · exact nofun
  · obtain ⟨size, rfl, bytes, starts, rfl⟩ := described descriptor rfl
    apply obeys_pure.mpr
    intro answer later same
    cases same
    refine .inr ⟨rfl, ?_, records.holds.push size starts, unsubmitted.trans records.unsubmitted⟩
    rw [Batch.push, records.descriptors, List.map_append]
    rfl

theorem require_shelved {batch : Batch} (commit : Commit) {shelf : Shelf} {commits : List Commit}
    (records : batch.Records shelf commits) :
    (batch.require commit.kind commit.payload commit.macroblocks : Action S ν Batch).run.Obeys
      (shelving judge)
      (fun after result => ∀ later, result = .ok later → later.Records after (commits ++ [commit]))
      shelf := by
  rw [Batch.require, obeys_bind]
  apply (add_shelved commit records).weaken
  intro after result added
  rcases result with interruption | ⟨answer, later⟩
  · exact nofun
  · rcases added answer later rfl with ⟨error, rfl⟩ | ⟨rfl, recorded⟩
    · exact obeys_fail.mpr nofun
    · apply obeys_pure.mpr
      intro last same
      cases same
      exact recorded

theorem returns_shelved {assembler : Assembler ν} {error : FrameError}
    (returns : assembler.Returns error) {batch : Batch} {shelf : Shelf} :
    (assembler.assemble batch : Action S ν Batch).run.Obeys (shelving judge)
      (fun _ result => result = .error (.failure error)) shelf := by
  induction assembler generalizing shelf with
  | fail given =>
      obtain rfl : given = error := returns
      exact obeys_fail.mpr rfl
  | inspect next inductionHypothesis =>
      exact inductionHypothesis batch.descriptors (returns batch.descriptors)
  | note mark next inductionHypothesis =>
      exact obeys_bind.mpr (obeys_note.mpr ⟨trivial, fun _ _ => inductionHypothesis returns⟩)
  | finish | panic _ | commit _ _ _ _ => exact False.elim returns

/-- A strategy that gives up at its first failed commit leaves the payloads of all its commits. -/
theorem assemble_shelved {assembler : Assembler ν} (stops : assembler.StopsAtFailure)
    {batch : Batch} {shelf : Shelf} {commits : List Commit}
    (records : batch.Records shelf commits) :
    (assembler.assemble batch : Action S ν Batch).run.Obeys (shelving judge)
      (fun after result => ∀ finished, result = .ok finished →
        ∃ more, assembler.Commits batch.descriptors more ∧
          finished.Records after (commits ++ more)) shelf := by
  induction assembler generalizing batch shelf commits with
  | finish =>
      apply obeys_pure.mpr
      intro finished same
      cases same
      exact ⟨[], .finish _, by simpa using records⟩
  | fail error =>
      apply obeys_fail.mpr
      intro finished same
      cases same
  | panic cause =>
      apply obeys_panic.mpr
      intro finished same
      cases same
  | commit kind payload macroblocks next inductionHypothesis =>
      rw [Assembler.assemble, obeys_bind]
      apply (add_shelved ⟨kind, payload, macroblocks⟩ records).weaken
      intro after result described
      rcases result with interruption | ⟨answer, later⟩
      · intro finished same
        cases same
      · rcases described answer later rfl with ⟨error, rfl⟩ | ⟨rfl, recorded⟩
        · apply (returns_shelved (stops.1 error)).weaken
          rintro _ _ rfl finished same
          cases same
        · apply (inductionHypothesis _ (stops.2 _) recorded).weaken
          intro last outcome finishes finished same
          obtain ⟨more, made, kept⟩ := finishes finished same
          rw [recorded.descriptors, List.map_append, ← records.descriptors] at made
          exact ⟨⟨kind, payload, macroblocks⟩ :: more, .commit made, by simpa using kept⟩
  | inspect next inductionHypothesis =>
      apply (inductionHypothesis batch.descriptors (stops batch.descriptors) records).weaken
      intro last outcome finishes finished same
      obtain ⟨more, made, kept⟩ := finishes finished same
      exact ⟨more, .inspect made, kept⟩
  | note mark next inductionHypothesis =>
      refine obeys_bind.mpr (obeys_note.mpr ⟨trivial, fun _ _ => ?_⟩)
      apply (inductionHypothesis stops records).weaken
      intro last outcome finishes finished same
      obtain ⟨more, made, kept⟩ := finishes finished same
      exact ⟨more, .note made, kept⟩

theorem requireMatrix_shelved {frame : Frame S ν} {batch : Batch} {shelf : Shelf}
    (records : batch.Records shelf [⟨.pictureParameters, frame.pictureParameters, 0⟩]) :
    (frame.requireMatrix batch).run.Obeys (shelving judge)
      (fun after result => ∀ later, result = .ok later → later.Records after frame.ownCommits)
      shelf := by
  simp only [Frame.requireMatrix, Frame.ownCommits]
  split
  · apply obeys_pure.mpr
    intro later same
    cases same
    exact records
  · exact shelving_ignoresLogs.obeys_onFailure (require_shelved ⟨_, _, 0⟩ records)

theorem frame_assemble_shelved {frame : Frame S ν} (stops : frame.assembler.StopsAtFailure)
    {shelf : Shelf} (unsubmitted : shelf.submitted = false) :
    frame.assemble.run.Obeys (shelving judge)
      (fun after result => ∀ finished, result = .ok finished →
        ∃ more, frame.assembler.Commits (frame.ownCommits.map Commit.descriptor) more ∧
          finished.Records after (frame.ownCommits ++ more)) shelf := by
  have empty : ({} : Batch).Records shelf [] := ⟨rfl, Shelf.Holds.nil shelf, unsubmitted⟩
  rw [Frame.assemble, obeys_bind]
  apply (shelving_ignoresLogs.obeys_onFailure (require_shelved ⟨_, _, 0⟩ empty)).weaken
  intro between result recorded
  cases result with
  | error interruption => exact nofun
  | ok batch =>
      apply obeys_bind.mpr
      apply (requireMatrix_shelved (recorded batch rfl)).weaken
      intro between result recorded
      cases result with
      | error interruption => exact nofun
      | ok batch =>
          have own := recorded batch rfl
          rw [← own.descriptors]
          exact shelving_ignoresLogs.obeys_onFailure (assemble_shelved stops own)

/-- A batch may be executed exactly if it has the expected number of buffers, and a bitstream and
slice control data come last. -/
theorem Batch.check_eq_ok_iff {batch : Batch} {expected : Nat} :
    batch.check expected = .ok () ↔
      batch.kinds.length = expected ∧ [.bitstream, .sliceControl] <:+ batch.kinds := by
  unfold check
  split
  next differs => simp [differs]
  next same =>
    have equal : batch.kinds.length = expected := Decidable.not_not.mp same
    split
    next last => simp [equal, List.isSuffixOf_iff_suffix.mp last]
    next other =>
      have absurd : ¬[.bitstream, .sliceControl] <:+ batch.kinds := fun last =>
        other (List.isSuffixOf_iff_suffix.mpr last)
      simp [absurd]

theorem Frame.batchSize_eq {frame : Frame S ν} :
    frame.batchSize = frame.ownCommits.length + 2 := by
  unfold batchSize ownCommits
  split <;> rfl

/-- A complete batch behind the frame's own commits has a bitstream and slice control data. -/
theorem Frame.exists_of_check {frame : Frame S ν} {batch : Batch} {more : List Commit}
    (descriptors : batch.descriptors = (frame.ownCommits ++ more).map Commit.descriptor)
    (checked : batch.check frame.batchSize = .ok ()) :
    ∃ bitstream slices : Commit, more = [bitstream, slices] ∧ bitstream.kind = .bitstream ∧
      slices.kind = .sliceControl := by
  obtain ⟨count, last⟩ := Batch.check_eq_ok_iff.mp checked
  have kinds : batch.kinds = frame.ownCommits.map Commit.kind ++ more.map Commit.kind := by
    rw [Batch.kinds, descriptors, List.map_map, ← List.map_append]
    rfl
  rw [kinds] at count last
  rw [batchSize_eq, List.length_append, List.length_map, List.length_map] at count
  have two : more.length = 2 := Nat.add_left_cancel count
  match more, two with
  | [bitstream, slices], _ =>
      obtain ⟨front, same⟩ := last
      obtain ⟨_, ends⟩ := List.append_inj' same rfl
      simp only [List.map_cons, List.map_nil, List.cons.injEq, and_true] at ends
      exact ⟨bitstream, slices, rfl, ends.1.symm, ends.2.symm⟩

theorem Frame.kinds_nodup {frame : Frame S ν} {bitstream slices : Commit}
    (first : bitstream.kind = .bitstream) (second : slices.kind = .sliceControl) :
    ((frame.ownCommits ++ [bitstream, slices]).map Commit.kind).Nodup := by
  unfold ownCommits
  split <;> simp [first, second]

theorem execute_shelved {frame : Frame S ν} (stops : frame.assembler.StopsAtFailure)
    {shelf : Shelf} (unsubmitted : shelf.submitted = false) :
    frame.execute.run.Obeys (shelving frame.mayExecute) (fun _ _ => True) shelf := by
  rw [Frame.execute, obeys_bind]
  apply (frame_assemble_shelved stops unsubmitted).weaken
  intro after result assembled
  cases result with
  | error interruption => trivial
  | ok batch =>
      obtain ⟨more, made, recorded⟩ := assembled batch rfl
      simp only
      cases checked : batch.check frame.batchSize with
      | error cause => exact obeys_panic.mpr trivial
      | ok _ =>
          obtain ⟨bitstream, slices, rfl, first, second⟩ :=
            Frame.exists_of_check recorded.descriptors checked
          have carries : frame.Carries batch.descriptors after.stored :=
            ⟨bitstream, slices, first, second, made, recorded.descriptors,
              recorded.holds.storedIn (Frame.kinds_nodup first second)⟩
          apply obeys_bind.mpr
          refine obeys_call.mpr ⟨⟨recorded.unsubmitted, carries⟩, fun outcome _ => ?_⟩
          cases outcome with
          | ok _ => exact obeys_pure.mpr trivial
          | failed status =>
              exact obeys_bind.mpr (obeys_log.mpr ⟨trivial, fun _ _ => obeys_fail.mpr trivial⟩)
          | panicked cause => trivial

theorem begin_shelved {policy : RetryPolicy} {lock : DeviceLock} {surface : S} {shelf : Shelf}
    (unsubmitted : shelf.submitted = false) :
    (policy.begin lock surface : Action S ν Unit).run.Obeys (shelving judge)
      (fun after _ => after.submitted = false) shelf := by
  apply Program.Asks.obeys_keeping begin_asks
  · intro shelf _ request opening
    rcases request with (_ | _) | _ | _ | _ | _ | _ | _ | _ | _ <;> trivial
  · intro shelf unsubmitted request opening answer
    rcases request with (_ | _) | _ | _ | _ | _ | _ | _ | _ | _ <;>
      first | exact False.elim opening | exact unsubmitted | (cases answer <;> exact unsubmitted)
  · exact unsubmitted

theorem submit_shelved {session : Session} {frame : Frame S ν}
    (stops : frame.assembler.StopsAtFailure) {shelf : Shelf}
    (unsubmitted : shelf.submitted = false) :
    (session.submit frame).run.Obeys (shelving frame.mayExecute) (fun _ _ => True) shelf := by
  apply submit_obeys shelving_ignoresLogs (begin_shelved unsubmitted)
  · intro _ _ _
    trivial
  · intro opened unsubmitted
    apply (execute_shelved stops unsubmitted).weaken
    intro worked executed _
    exact {
      ended := trivial
      freed := fun _ _ => ⟨trivial, trivial⟩
      aborted := fun _ _ => trivial }

/-! ### Drivers that keep what they lend -/

/-- The driver keeps every buffer it lends, and what is written into it, until a frame begins. -/
structure Driver.Keeps {δ : Type} (driver : Driver BufferKind S δ σ ο)
    (stored : σ → BufferKind → Option Bytes) : Prop where
  getBuffer : ∀ kind locks state,
    let reply := driver.getBuffer kind locks state
    stored reply.state =
      match reply.outcome with
      | .ok lent => fun other => if other = kind then some lent else stored state other
      | _ => stored state
  releaseBuffer : ∀ kind locks state,
    stored (driver.releaseBuffer kind locks state).state = stored state
  beginFrame : ∀ surface locks state,
    let reply := driver.beginFrame surface locks state
    stored reply.state =
      match reply.outcome with
      | .ok _ => fun _ => none
      | _ => stored state
  submitBuffers : ∀ batch locks state,
    stored (driver.submitBuffers batch locks state).state = stored state
  endFrame : ∀ locks state, stored (driver.endFrame locks state).state = stored state
  store : ∀ kind contents state,
    stored (driver.store kind contents state) =
      fun other => if other = kind then some contents else stored state other

theorem Backend.keepsStep_shelving {backend : Backend S σ ο}
    {stored : σ → BufferKind → Option Bytes} (keeps : backend.driver.Keeps stored) :
    (backend.environment : Environment S ν (World σ) (Entry ο ν)).KeepsStep (shelving judge)
      fun shelf world => stored world.driver = shelf.stored := by
  intro shelf world request served same _ answered
  refine ⟨trivial, ?_⟩
  cases request with
  | call call =>
      cases answered
      cases call with
      | getBuffer kind =>
          refine (keeps.getBuffer kind world.locks world.driver).trans ?_
          simp only [Backend.reply, shelving]
          generalize (backend.driver.getBuffer kind world.locks world.driver).outcome = outcome
          rw [same]
          cases outcome <;> rfl
      | releaseBuffer kind => exact (keeps.releaseBuffer kind _ _).trans same
      | beginFrame surface =>
          refine (keeps.beginFrame surface world.locks world.driver).trans ?_
          simp only [Backend.reply, shelving]
          generalize (backend.driver.beginFrame surface world.locks world.driver).outcome = outcome
          rw [same]
          cases outcome <;> rfl
      | submitBuffers batch => exact (keeps.submitBuffers batch _ _).trans same
      | endFrame => exact (keeps.endFrame _ _).trans same
  | store kind contents =>
      cases answered
      exact (keeps.store kind contents _).trans (by rw [same]; rfl)
  | acquire lock =>
      obtain ⟨locks, _, rfl⟩ := Option.map_eq_some_iff.mp answered
      exact same
  | abort => cases answered
  | _ =>
      cases answered
      exact same

namespace Scripted

variable {δ : Type} [DescriptorLayout δ]

/-- The stored buffer of every kind. -/
def State.stored (state : State) (kind : BufferKind) : Option Bytes :=
  state.buffers.get? kind.code

theorem stored_put {state : State} {kind : BufferKind} {bytes : Bytes} :
    State.stored { state with buffers := state.buffers.put kind.code bytes } =
      fun other => if other = kind then some bytes else state.stored other := by
  funext other
  simp only [State.stored]
  split
  next same => rw [same, BufferStore.get?_put_self]
  next distinct =>
    exact BufferStore.get?_put_of_ne _ _ fun same => distinct (BufferKind.code_injective same)

theorem encoded_keeps {observed : DeviceLock} {layout : Descriptor → δ} :
    ((driver observed).encoded BufferKind.code layout).Keeps State.stored where
  getBuffer kind locks state := by
    simp only [Driver.encoded, driver, getBuffer]
    cases (next none state.script.gets).1 with
    | ok granted => exact stored_put
    | failed _ | panicked _ => rfl
  releaseBuffer _ _ _ := rfl
  beginFrame surface locks state := by
    simp only [Driver.encoded, driver, beginFrame]
    cases (next () state.script.begins).1 with
    | ok _ => rfl
    | failed _ | panicked _ => rfl
  submitBuffers _ _ _ := rfl
  endFrame _ _ := rfl
  store _ _ _ := stored_put

/-- The backends over a scripted driver: the two adapters, and one that hands its calls on. -/
inductive Backs : {ο : Type} → Backend NamedSurface State ο → Prop where
  | surfaceTable (observed : DeviceLock) (table : SurfaceTable NamedSurface) :
      Backs (table.backend (driver observed))
  | textureArray (observed lock : DeviceLock) (slice : NamedSurface → UInt32) :
      Backs (TextureArray.backend (driver observed) lock slice)
  | forwarding (observed : DeviceLock) (kind : BackendKind) (lock : DeviceLock)
      (surfaces : List (NamedSurface × UInt32)) :
      Backs (Forwarding.backend (driver observed) kind lock surfaces)

theorem Backs.keeps {backend : Backend NamedSurface State ο} (backs : Backs backend) :
    backend.driver.Keeps State.stored := by
  cases backs with
  | surfaceTable observed => exact encoded_keeps
  | textureArray observed => exact encoded_keeps
  | forwarding observed =>
      have keeps : ((driver observed).encoded BufferKind.code id).Keeps State.stored :=
        encoded_keeps
      exact
        { getBuffer := keeps.getBuffer
          releaseBuffer := keeps.releaseBuffer
          beginFrame := keeps.beginFrame
          submitBuffers := fun batch => keeps.submitBuffers batch
          endFrame := keeps.endFrame
          store := keeps.store }

end Scripted

theorem Shelf.submitted_next {shelf : Shelf} (submitted : shelf.submitted = true)
    (request : Request S ν) (answer : request.Answer) :
    (shelf.next request answer).submitted = true := by
  rcases request with (_ | _ | _ | _ | _) | _ | _ | _ | _ | _ | _ | _ | _ <;>
    first | exact submitted | rfl | (cases answer <;> exact submitted)

theorem submitted_after {shelf : Shelf} (submitted : shelf.submitted = true)
    (trace : List (Exchange S ν)) : ((shelving judge).after shelf trace).submitted = true := by
  induction trace generalizing shelf with
  | nil => exact submitted
  | cons exchange trace inductionHypothesis =>
      exact inductionHypothesis (Shelf.submitted_next submitted exchange.request exchange.answer)

theorem submitted_after_of_mem {shelf : Shelf} {trace : List (Exchange S ν)}
    {exchange : Exchange S ν} (member : exchange ∈ trace) {batch : List Descriptor}
    (submits : exchange.request = .call (.submitBuffers batch)) :
    ((shelving judge).after shelf trace).submitted = true := by
  obtain ⟨front, back, rfl⟩ := List.append_of_mem member
  obtain ⟨request, answer⟩ := exchange
  obtain rfl : request = .call (.submitBuffers batch) := submits
  rw [Protocol.after, List.foldl_append, List.foldl_cons]
  exact submitted_after rfl back

/-- Wherever a submission over a scripted driver has a batch executed, it does so for the first
time, and the driver holds the payloads that the batch describes. -/
theorem executed_batch_carries_payloads {backend : Backend NamedSurface Scripted.State ο}
    (backs : Scripted.Backs backend) {session : Session} {frame : Frame NamedSurface ν}
    (stops : frame.assembler.StopsAtFailure) {world after : World Scripted.State}
    {trace : List (Exchange NamedSurface ν)} {journal : List (Entry ο ν)}
    {batch : List Descriptor} {resume : Outcome Unit → Program NamedSurface ν _}
    (reached : backend.environment.Reaches (session.submit frame).run world trace journal
      (.ask (.call (.submitBuffers batch)) resume) after) :
    (∀ exchange ∈ trace, ∀ other, exchange.request ≠ .call (.submitBuffers other)) ∧
      frame.Carries batch after.driver.stored := by
  have obeys : (session.submit frame).run.Obeys (shelving frame.mayExecute) (fun _ _ => True)
      ⟨world.driver.stored, false⟩ := submit_shelved stops rfl
  obtain ⟨rest, same⟩ :=
    obeys.of_reaches (Backend.keepsStep_shelving backs.keeps) rfl reached
  obtain ⟨unsubmitted, carries⟩ := (Program.obeys_ask.mp rest).1
  refine ⟨?_, same ▸ carries⟩
  intro exchange member other submits
  rw [submitted_after_of_mem member submits] at unsubmitted
  cases unsubmitted

/-- Whether a request has a batch executed. -/
def Request.executes : Request S ν → Bool
  | .call (.submitBuffers _) => true
  | _ => false

/-- A scripted driver behind a backend that hands its calls on. -/
def Scripted.forwarder :
    Backend NamedSurface Scripted.State
      (Forwarding.Event NamedSurface (Scripted.Event Descriptor)) :=
  Forwarding.backend (Scripted.driver .absent) .textureArray (.mutex 0) []

/-- A frame with a matrix and a plain strategy. -/
def Frame.plain : Frame NamedSurface Empty where
  surface := { name := "s", slice := 0 }
  pictureParameters := [1, 2]
  quantMatrix := [3]
  assembler := .committing [⟨.bitstream, [4, 5, 6], 7⟩, ⟨.sliceControl, [8], 9⟩]

/-- The device is busy at first, and a batch of four buffers is executed then. -/
theorem executed_batch_carries_matrix :
    ∃ trace journal batch resume after,
      Scripted.Backs Scripted.forwarder ∧ Frame.plain.assembler.StopsAtFailure ∧
        Scripted.forwarder.environment.Reaches
            (Session.submit { format := .textureArray, lock := .mutex 0 } Frame.plain).run
            { driver := { script := { begins := [.failed .pending] } } } trace journal
            (.ask (.call (.submitBuffers batch)) resume) after ∧
          (∀ exchange ∈ trace, ∀ other, exchange.request ≠ .call (.submitBuffers other)) ∧
            Frame.plain.Carries batch after.driver.stored := by
  have comes : Scripted.forwarder.environment.comesTo Request.executes
      (Session.submit { format := .textureArray, lock := .mutex 0 } Frame.plain).run
      { driver := { script := { begins := [.failed .pending] } } } = true := by
    decide +kernel
  obtain ⟨trace, journal, request, resume, after, executes, reached⟩ :=
    Environment.comesTo_iff.mp comes
  match request, executes, resume, reached with
  | .call (.submitBuffers batch), _, resume, reached =>
      have backs : Scripted.Backs Scripted.forwarder := .forwarding _ _ _ _
      have stops : Frame.plain.assembler.StopsAtFailure := Assembler.committing_stopsAtFailure _
      exact ⟨trace, journal, batch, resume, after, backs, stops, reached,
        executed_batch_carries_payloads backs stops reached⟩

end HardwareDecode
