/-
Module: HardwareDecode.Proofs.InterfaceAgreement
Purpose: The two driver interfaces are one to a session.  A session over a surface table and a
  session over a texture array, given the same steps and drivers that answer alike, do the same:
  their drivers receive the same calls with the same arguments, and the sessions give the same
  results.
Main exports: TableDescriptor.Agrees, Received, Driver.watched, Driver.Matches, Backend.Matches,
  Backend.Matches.lockstep, Driver.Twins, Backend.SharesLife, interfaces_agree
-/
import HardwareDecode.Proofs.Likeness
import HardwareDecode.Proofs.LockDiscipline
import HardwareDecode.Proofs.RecordingBackend

namespace HardwareDecode

variable {S ν σ σ' ο ο' δ δ' α : Type}

/-! ### Descriptors in two forms -/

/-- The two forms agree in every field they share, and the others are empty. -/
structure TableDescriptor.Agrees (table : TableDescriptor) (context : ContextDescriptor) :
    Prop where
  bufferType : table.compressedBufferType = context.bufferType
  bufferIndex : table.bufferIndex = context.bufferIndex
  dataOffset : table.dataOffset = context.dataOffset
  dataSize : table.dataSize = context.dataSize
  firstMacroblock : table.firstMacroblock = context.firstMacroblock
  macroblocks : table.macroblocks = context.macroblocks
  width : table.width = context.width
  height : table.height = context.height
  stride : table.stride = context.stride
  reservedBits : table.reservedBits = context.reservedBits
  ivSize : context.ivSize = 0
  plainText : context.partialEncryption = false

/-- The form for a decoder device says of a buffer what it is, and nothing else. -/
def Descriptor.ToldByTable (descriptor : Descriptor) (told : TableDescriptor) : Prop :=
  told =
    { compressedBufferType := descriptor.kind.code, bufferIndex := 0, dataOffset := 0
      dataSize := descriptor.dataSize, firstMacroblock := 0
      macroblocks := descriptor.macroblocks, width := 0, height := 0, stride := 0
      reservedBits := 0 }

/-- The form for a video context says of a buffer what it is, and nothing else. -/
def Descriptor.ToldByContext (descriptor : Descriptor) (told : ContextDescriptor) : Prop :=
  told =
    { bufferType := descriptor.kind.code, bufferIndex := 0, dataOffset := 0
      dataSize := descriptor.dataSize, firstMacroblock := 0
      macroblocks := descriptor.macroblocks, width := 0, height := 0, stride := 0
      reservedBits := 0, ivSize := 0, partialEncryption := false }

theorem Descriptor.agrees (descriptor : Descriptor) :
    (TableDescriptor.ofDescriptor descriptor).Agrees
      (ContextDescriptor.ofDescriptor descriptor) := by
  constructor <;> rfl

/-! ### Received calls -/

/-- A call as a driver receives it, with all its arguments. -/
inductive Received (S δ : Type) where
  | getBuffer (code : UInt32)
  | releaseBuffer (code : UInt32)
  | beginFrame (surface : S)
  | submitBuffers (batch : List δ)
  | endFrame

/-- An event of a driver, or a call it received. -/
inductive Watched (S δ ο : Type) where
  | received (call : Received S δ)
  | own (event : ο)

/-- The same reply, behind the call that it answers. -/
def Reply.to (reply : Reply α σ ο) (call : Received S δ) : Reply α σ (Watched S δ ο) :=
  { reply with events := .received call :: reply.events.map .own }

/-- The same driver, whose events also tell which calls it received. -/
def Driver.watched (driver : Driver UInt32 S δ σ ο) : Driver UInt32 S δ σ (Watched S δ ο) where
  getBuffer code locks state := (driver.getBuffer code locks state).to (.getBuffer code)
  releaseBuffer code locks state := (driver.releaseBuffer code locks state).to (.releaseBuffer code)
  beginFrame surface locks state := (driver.beginFrame surface locks state).to (.beginFrame surface)
  submitBuffers batch locks state :=
    (driver.submitBuffers batch locks state).to (.submitBuffers batch)
  endFrame locks state := (driver.endFrame locks state).to .endFrame
  store := driver.store

/-- The received calls among the entries of a journal. -/
def receivedCalls (journal : List (Entry (Watched S δ ο) ν)) : List (Received S δ) :=
  journal.filterMap fun
    | .event (.received call) => some call
    | _ => none

/-- A call of a session, and the same call as the driver receives it. -/
inductive Received.Carries (Tells : Descriptor → δ → Prop) : Answered S → Received S δ → Prop where
  | getBuffer (kind : BufferKind) (outcome : Outcome Bytes) :
      Carries Tells ⟨.getBuffer kind, outcome⟩ (.getBuffer kind.code)
  | releaseBuffer (kind : BufferKind) (outcome : Outcome Unit) :
      Carries Tells ⟨.releaseBuffer kind, outcome⟩ (.releaseBuffer kind.code)
  | beginFrame (surface : S) (outcome : Outcome Unit) :
      Carries Tells ⟨.beginFrame surface, outcome⟩ (.beginFrame surface)
  | submitBuffers {batch : List Descriptor} {told : List δ} (tells : List.Forall₂ Tells batch told)
      (outcome : Outcome Unit) :
      Carries Tells ⟨.submitBuffers batch, outcome⟩ (.submitBuffers told)
  | endFrame (outcome : Outcome Unit) : Carries Tells ⟨.endFrame, outcome⟩ .endFrame

/-- The same call through both interfaces. -/
inductive Received.Agrees : Received S TableDescriptor → Received S ContextDescriptor → Prop where
  | getBuffer (code : UInt32) : Agrees (.getBuffer code) (.getBuffer code)
  | releaseBuffer (code : UInt32) : Agrees (.releaseBuffer code) (.releaseBuffer code)
  | beginFrame (surface : S) : Agrees (.beginFrame surface) (.beginFrame surface)
  | submitBuffers {batch : List TableDescriptor} {twin : List ContextDescriptor}
      (agrees : List.Forall₂ TableDescriptor.Agrees batch twin) :
      Agrees (.submitBuffers batch) (.submitBuffers twin)
  | endFrame : Agrees .endFrame .endFrame

inductive Watched.Agrees (Agree : ο → ο' → Prop) :
    Watched S TableDescriptor ο → Watched S ContextDescriptor ο' → Prop where
  | received {call : Received S TableDescriptor} {twin : Received S ContextDescriptor}
      (agrees : call.Agrees twin) : Agrees Agree (.received call) (.received twin)
  | own {event : ο} {twin : ο'} (agrees : Agree event twin) : Agrees Agree (.own event) (.own twin)

/-- Messages and notes are the same, and events agree. -/
inductive Entry.Agrees (Agree : ο → ο' → Prop) : Entry ο ν → Entry ο' ν → Prop where
  | event {event : ο} {twin : ο'} (agrees : Agree event twin) :
      Agrees Agree (.event event) (.event twin)
  | log (record : LogRecord) : Agrees Agree (.log record) (.log record)
  | note (mark : ν) : Agrees Agree (.note mark) (.note mark)

/-! ### Drivers that answer alike -/

/-- Whatever locks they see, the drivers reply alike to the same calls in the forms of their
interfaces. -/
structure Driver.Matches (Same : σ → σ' → Prop) (Agree : ο → ο' → Prop)
    (first : Driver UInt32 S TableDescriptor σ ο)
    (second : Driver UInt32 S ContextDescriptor σ' ο') : Prop where
  getBuffer : ∀ {state twin}, Same state twin → ∀ code locks others,
    (first.getBuffer code locks state).Matches Same Agree (second.getBuffer code others twin)
  releaseBuffer : ∀ {state twin}, Same state twin → ∀ code locks others,
    (first.releaseBuffer code locks state).Matches Same Agree
      (second.releaseBuffer code others twin)
  beginFrame : ∀ {state twin}, Same state twin → ∀ surface locks others,
    (first.beginFrame surface locks state).Matches Same Agree
      (second.beginFrame surface others twin)
  submitBuffers : ∀ {state twin}, Same state twin → ∀ (batch : List Descriptor) locks others,
    (first.submitBuffers (batch.map TableDescriptor.ofDescriptor) locks state).Matches Same Agree
      (second.submitBuffers (batch.map ContextDescriptor.ofDescriptor) others twin)
  endFrame : ∀ {state twin}, Same state twin → ∀ locks others,
    (first.endFrame locks state).Matches Same Agree (second.endFrame others twin)
  store : ∀ {state twin}, Same state twin → ∀ code contents,
    Same (first.store code contents state) (second.store code contents twin)

theorem Reply.Matches.to {Same : σ → σ' → Prop} {Agree : ο → ο' → Prop} {one : Reply α σ ο}
    {other : Reply α σ' ο'} (alike : one.Matches Same Agree other)
    {call : Received S TableDescriptor} {twin : Received S ContextDescriptor}
    (agrees : call.Agrees twin) :
    (one.to call).Matches Same (Watched.Agrees Agree) (other.to twin) where
  outcome := alike.outcome
  state := alike.state
  events := .cons (.received agrees) (List.rel_map (fun _ _ agrees => .own agrees) alike.events)

theorem Descriptor.all_agree (batch : List Descriptor) :
    List.Forall₂ TableDescriptor.Agrees (batch.map TableDescriptor.ofDescriptor)
      (batch.map ContextDescriptor.ofDescriptor) := by
  rw [List.forall₂_map_left_iff, List.forall₂_map_right_iff]
  exact List.forall₂_same.mpr fun descriptor _ => descriptor.agrees

/-- Drivers that reply alike do so while they are watched. -/
theorem Driver.Matches.watched {Same : σ → σ' → Prop} {Agree : ο → ο' → Prop}
    {first : Driver UInt32 S TableDescriptor σ ο} {second : Driver UInt32 S ContextDescriptor σ' ο'}
    (alike : first.Matches Same Agree second) :
    first.watched.Matches Same (Watched.Agrees Agree) second.watched where
  getBuffer same code locks others :=
    (alike.getBuffer same code locks others).to (.getBuffer code)
  releaseBuffer same code locks others :=
    (alike.releaseBuffer same code locks others).to (.releaseBuffer code)
  beginFrame same surface locks others :=
    (alike.beginFrame same surface locks others).to (.beginFrame surface)
  submitBuffers same batch locks others :=
    (alike.submitBuffers same batch locks others).to (.submitBuffers (Descriptor.all_agree batch))
  endFrame same locks others := (alike.endFrame same locks others).to .endFrame
  store := alike.store

/-! ### Backends that answer alike -/

/-- The adapters over drivers that reply alike. -/
structure Backend.Matches (Same : σ → σ' → Prop) (Agree : ο → ο' → Prop) (backend : Backend S σ ο)
    (mirror : Backend S σ' ο') : Prop where
  reply : ∀ {state twin}, Same state twin → ∀ call locks others,
    (backend.reply call locks state).Matches Same Agree (mirror.reply call others twin)
  store : ∀ {state twin}, Same state twin → ∀ kind contents,
    Same (backend.driver.store kind contents state) (mirror.driver.store kind contents twin)

theorem Driver.Matches.backends [BEq S] {Same : σ → σ' → Prop} {Agree : ο → ο' → Prop}
    {first : Driver UInt32 S TableDescriptor σ ο} {second : Driver UInt32 S ContextDescriptor σ' ο'}
    (alike : first.Matches Same Agree second) (table : SurfaceTable S) (lock : DeviceLock)
    (slice : S → UInt32) :
    (table.backend first).Matches Same Agree (TextureArray.backend second lock slice) where
  reply same call locks others := by
    cases call with
    | getBuffer kind => exact alike.getBuffer same kind.code locks others
    | releaseBuffer kind => exact alike.releaseBuffer same kind.code locks others
    | beginFrame surface => exact alike.beginFrame same surface locks others
    | submitBuffers batch => exact alike.submitBuffers same batch locks others
    | endFrame => exact alike.endFrame same locks others
  store same kind contents := alike.store same kind.code contents

/-- Sessions that have counted the same number of frames, one without a lock and one with it. -/
def Likeness.across (lock : DeviceLock) : Likeness where
  lock := .absent
  twin := lock
  counts := Eq
  counts_next same := congrArg (· + 1) same

theorem Likeness.across_leaves (lock : DeviceLock) {Agree : ο → ο' → Prop} :
    (Likeness.across lock).Leaves Agree (Entry.Agrees Agree : Entry ο ν → Entry ο' ν → Prop) where
  event := .event
  log := .log
  note := .note
  counted := by
    rintro count _ rfl
    exact .log (.submitted count)

theorem Backend.Matches.serve {Same : σ → σ' → Prop} {Agree : ο → ο' → Prop} {lock : DeviceLock}
    {backend : Backend S σ ο} {mirror : Backend S σ' ο'} (alike : backend.Matches Same Agree mirror)
    {one other : Request S ν} {Answers : one.Answer → other.Answer → Prop}
    (pairs : one.Pairs (.across lock) other Answers) {world : World σ} {twin : World σ'}
    (same : Same world.driver twin.driver)
    {served : Served one.Answer (World σ) (Entry ο ν)}
    {mirrored : Served other.Answer (World σ') (Entry ο' ν)}
    (answered : backend.serve one world = some served)
    (replied : mirror.serve other twin = some mirrored) :
    Answers served.answer mirrored.answer ∧ Same served.world.driver mirrored.world.driver ∧
      List.Forall₂ (Entry.Agrees Agree) served.journal mirrored.journal :=
  pairs.served (Likeness.across_leaves lock) (fun _ _ => Same)
    (fun call _ => alike.reply same call world.locks twin.locks)
    (fun kind contents _ => alike.store same kind contents) (fun _ _ => same) answered replied

/-- Backends that reply alike take two sessions from request to request in step. -/
theorem Backend.Matches.lockstep {Same : σ → σ' → Prop} {Agree : ο → ο' → Prop}
    {backend : Backend S σ ο} {mirror : Backend S σ' ο'} (lock : DeviceLock)
    (alike : backend.Matches Same Agree mirror) :
    (backend.environment : Environment S ν _ _).Lockstep (.across lock) mirror.environment
      (framing .absent)
      (fun phase world twin => phase.BothInStep (.across lock) backend mirror world twin ∧
        Same world.driver twin.driver)
      (Entry.Agrees Agree) := by
  rintro phase world twin one other Answers ⟨both, same⟩ allowed pairs goesOn
  obtain ⟨served, mirrored, answered, replied⟩ := both.exists_served allowed pairs goesOn
  obtain ⟨answers, still, agree⟩ := alike.serve pairs same answered replied
  obtain ⟨expected, next⟩ := both.next allowed pairs answered replied answers
  exact ⟨served, mirrored, answered, replied, answers, expected, ⟨next, still⟩, agree⟩

/-! ### What a watched driver hears -/

/-- At each call the driver receives that call, with its batch as `Tells` has it told. -/
structure Backend.Hears (Tells : Descriptor → δ → Prop) (backend : Backend S σ (Watched S δ ο)) :
    Prop where
  call : ∀ call locks state, ∃ (received : Received S δ) (own : List ο),
    let reply := backend.reply call locks state
    reply.events = .received received :: own.map .own ∧
      Received.Carries Tells ⟨call, reply.outcome⟩ received
  asked : ∀ query, backend.asked query = []

theorem Backend.hears {Tells : Descriptor → δ → Prop} {backend : Backend S σ (Watched S δ ο)}
    {driver : Driver UInt32 S δ σ ο} {layout : Descriptor → δ}
    (watched : backend.driver = driver.watched.encoded BufferKind.code layout)
    (tells : ∀ descriptor, Tells descriptor (layout descriptor))
    (asked : ∀ query, backend.asked query = []) : backend.Hears Tells where
  call call locks state := by
    cases call with
    | submitBuffers batch =>
        have told : List.Forall₂ Tells batch (batch.map layout) := by
          rw [List.forall₂_map_right_iff]
          exact List.forall₂_same.mpr fun descriptor _ => tells descriptor
        simp only [Backend.reply, watched]
        exact ⟨_, _, rfl, .submitBuffers told _⟩
    | _ =>
        simp only [Backend.reply, watched]
        exact ⟨_, _, rfl, by constructor⟩
  asked := asked

theorem receivedCalls_append (front back : List (Entry (Watched S δ ο) ν)) :
    receivedCalls (front ++ back) = receivedCalls front ++ receivedCalls back :=
  List.filterMap_append

theorem receivedCalls_own (own : List ο) :
    receivedCalls ((own.map Watched.own).map Entry.event : List (Entry (Watched S δ ο) ν)) =
      [] := by
  induction own with
  | nil => rfl
  | cons event own inductionHypothesis => exact inductionHypothesis

/-- The calls a driver receives are those of the session. -/
theorem Backend.Hears.of_reaches {Tells : Descriptor → δ → Prop}
    {backend : Backend S σ (Watched S δ ο)} (hears : backend.Hears Tells)
    {program rest : Program S ν α} {world after : World σ} {trace : List (Exchange S ν)}
    {journal : List (Entry (Watched S δ ο) ν)}
    (reached : backend.environment.Reaches program world trace journal rest after) :
    List.Forall₂ (Received.Carries Tells) (driverCalls trace) (receivedCalls journal) := by
  induction reached with
  | here => exact .nil
  | @step request resume world served trace journal rest after answered _ inductionHypothesis =>
      rw [receivedCalls_append]
      cases request with
      | call call =>
          obtain ⟨received, own, events, carries⟩ := hears.call call world.locks world.driver
          cases answered
          have heard : receivedCalls ((backend.reply call world.locks world.driver).events.map
              Entry.event : List (Entry (Watched S δ ο) ν)) = [received] := by
            rw [events]
            exact congrArg (received :: ·) (receivedCalls_own own)
          rw [heard]
          exact .cons carries inductionHypothesis
      | acquire lock =>
          obtain ⟨_, _, rfl⟩ := Option.map_eq_some_iff.mp answered
          exact inductionHypothesis
      | query query =>
          cases answered
          rw [hears.asked query]
          exact inductionHypothesis
      | abort => cases answered
      | _ =>
          cases answered
          exact inductionHypothesis

/-! ### Scripted and recording drivers -/

namespace Scripted

/-- Events that are the same but for the lock that is observed. -/
inductive Event.Agrees : Event TableDescriptor → Event ContextDescriptor → Prop where
  | getBuffer (code : UInt32) (locked other : Bool) :
      Agrees (.getBuffer code locked) (.getBuffer code other)
  | releaseBuffer (code : UInt32) (checksum : Option UInt32) (locked other : Bool) :
      Agrees (.releaseBuffer code locked checksum) (.releaseBuffer code other checksum)
  | beginFrame (surface : NamedSurface) (locked other : Bool) :
      Agrees (.beginFrame surface locked) (.beginFrame surface other)
  | submitBuffers {batch : List (TableDescriptor × Option UInt32)}
      {twin : List (ContextDescriptor × Option UInt32)}
      (agrees : List.Forall₂ (fun one other => one.1.Agrees other.1 ∧ one.2 = other.2) batch twin)
      (locked other : Bool) : Agrees (.submitBuffers locked batch) (.submitBuffers other twin)
  | endFrame (locked other : Bool) : Agrees (.endFrame locked) (.endFrame other)

theorem driver_matches (observed other : DeviceLock) :
    (driver observed : Driver UInt32 NamedSurface TableDescriptor State _).Matches Eq Event.Agrees
      (driver other) where
  getBuffer := by
    rintro state _ rfl code locks others
    simp only [driver, getBuffer]
    cases (next none state.script.gets).1 <;>
      exact ⟨rfl, rfl, .cons (.getBuffer ..) .nil⟩
  releaseBuffer := by
    rintro state _ rfl code locks others
    exact ⟨rfl, rfl, .cons (.releaseBuffer ..) .nil⟩
  beginFrame := by
    rintro state _ rfl surface locks others
    exact ⟨rfl, rfl, .cons (.beginFrame ..) .nil⟩
  submitBuffers := by
    rintro state _ rfl batch locks others
    refine ⟨rfl, rfl, .cons (.submitBuffers ?_ _ _) .nil⟩
    simp only [List.map_map]
    rw [List.forall₂_map_left_iff, List.forall₂_map_right_iff]
    exact List.forall₂_same.mpr fun descriptor _ => ⟨descriptor.agrees, rfl⟩
  endFrame := by
    rintro state _ rfl locks others
    exact ⟨rfl, rfl, .cons (.endFrame ..) .nil⟩
  store := by
    rintro state _ rfl code contents
    rfl

end Scripted

namespace Recording

/-- States that are the same but for the lock that was observed at each call. -/
inductive SameCalls : InFlight × State → InFlight × State → Prop where
  | mk (inFlight : InFlight) (state : State) (records : List Record)
      (calls : state.records.map Record.call = records.map Record.call) :
      SameCalls (inFlight, state) (inFlight, { state with records })

theorem driver_matches (observed other : DeviceLock) :
    (driver observed : Driver UInt32 UInt32 TableDescriptor (InFlight × State) Empty).Matches
      SameCalls Eq (driver other) where
  getBuffer := by
    rintro _ _ ⟨inFlight, state, records, calls⟩ code locks others
    simp only [driver, getBuffer, State.record]
    split
    · exact ⟨rfl, ⟨inFlight, state, records, calls⟩, .nil⟩
    · split
      · exact ⟨rfl, ⟨inFlight, _, _, by simp [calls]⟩, .nil⟩
      · exact ⟨rfl, ⟨inFlight, _, _, by simp [calls]⟩, .nil⟩
  releaseBuffer := by
    rintro _ _ ⟨inFlight, state, records, calls⟩ code locks others
    simp only [driver, releaseBuffer, State.record]
    split
    · exact ⟨rfl, ⟨inFlight, state, records, calls⟩, .nil⟩
    · exact ⟨rfl, ⟨inFlight, _, _, by simp [calls]⟩, .nil⟩
  beginFrame := by
    rintro _ _ ⟨inFlight, state, records, calls⟩ surface locks others
    simp only [driver, beginFrame, State.record]
    split
    · exact ⟨rfl, ⟨inFlight, _, _, by simp [calls]⟩, .nil⟩
    · by_cases busy : state.beginCalls + 1 ≤ state.script.busyBegins
      · simp only [busy, ↓reduceIte]
        exact ⟨rfl, ⟨inFlight, _, _, by simp [calls]⟩, .nil⟩
      · simp only [busy, ↓reduceIte]
        exact ⟨rfl, ⟨_, _, _, by simp [calls]⟩, .nil⟩
  submitBuffers := by
    rintro _ _ ⟨inFlight, state, records, calls⟩ batch locks others
    simp only [driver, submitBuffers, inspectAll_map TableDescriptor.ofDescriptor_faithful,
      inspectAll_map ContextDescriptor.ofDescriptor_faithful, State.record]
    split
    · exact ⟨rfl, ⟨inFlight, state, records, calls⟩, .nil⟩
    · exact ⟨rfl, ⟨inFlight, state, records, calls⟩, .nil⟩
    · split
      · exact ⟨rfl, ⟨inFlight, _, _, by simp [calls]⟩, .nil⟩
      · exact ⟨rfl, ⟨inFlight, _, _, by simp [calls]⟩, .nil⟩
  endFrame := by
    rintro _ _ ⟨inFlight, state, records, calls⟩ locks others
    exact ⟨rfl, ⟨_, _, _, by simp [State.record, calls]⟩, .nil⟩
  store := by
    rintro _ _ ⟨inFlight, state, records, calls⟩ code contents
    simp only [driver, store]
    split
    · exact ⟨inFlight, _, _, calls⟩
    · exact ⟨inFlight, state, records, calls⟩

end Recording

/-- Two drivers of one kind, each behind another interface.  They need not observe the same lock. -/
inductive Driver.Twins : {S σ ο ο' : Type} → Driver UInt32 S TableDescriptor σ ο →
    Driver UInt32 S ContextDescriptor σ ο' → (σ → σ → Prop) → (ο → ο' → Prop) → Prop where
  | scripted (observed other : DeviceLock) :
      Twins (Scripted.driver observed) (Scripted.driver other) Eq Scripted.Event.Agrees
  | recording (observed other : DeviceLock) :
      Twins (Recording.driver observed) (Recording.driver other) Recording.SameCalls
        (Eq : Empty → Empty → Prop)

theorem Driver.Twins.matches {Same : σ → σ → Prop} {Agree : ο → ο' → Prop}
    {first : Driver UInt32 S TableDescriptor σ ο} {second : Driver UInt32 S ContextDescriptor σ ο'}
    (twins : Driver.Twins first second Same Agree) : first.Matches Same Agree second := by
  cases twins with
  | scripted observed other => exact Scripted.driver_matches observed other
  | recording observed other => exact Recording.driver_matches observed other

/-! ### Sessions over both interfaces -/

/-- What is left of the life of a session after it was opened. -/
def Session.lives (session : Session) (steps : List (Session.Step S ν)) :
    Program S ν (Except Refusal (List Session.Result × Session)) := do
  let lived ← session.performAll steps
  return .ok lived

theorem SurfaceTable.opens [BEq S] (table : SurfaceTable S)
    (driver : Driver UInt32 S TableDescriptor σ ο) (policy : RetryPolicy)
    (steps : List (Session.Step S ν)) (world : World σ) :
    ∃ trace, driverCalls trace = [] ∧
      (table.backend driver).environment.Reaches (Session.life .surfaceTable policy steps) world
        trace []
        (Session.lives { format := .surfaceTable, lock := .absent, retry := policy } steps)
        world := by
  refine ⟨[⟨.query .kind, .surfaceTable⟩, ⟨.query .deviceLock, .absent⟩], rfl, ?_⟩
  -- neither answer leaves an entry
  change Environment.Reaches _ _ _ _ ([] ++ ([] ++ [])) _ _
  exact .answered rfl (.answered rfl (.here _ _))

theorem TextureArray.opens (driver : Driver UInt32 S ContextDescriptor σ ο) (lock : DeviceLock)
    (slice : S → UInt32) (policy : RetryPolicy) (steps : List (Session.Step S ν))
    (world : World σ) :
    ∃ trace, driverCalls trace = [] ∧
      (TextureArray.backend driver lock slice).environment.Reaches
        (Session.life .textureArray policy steps) world trace []
        (Session.lives { format := .textureArray, lock, retry := policy } steps) world := by
  refine ⟨[⟨.query .kind, .textureArray⟩, ⟨.query .deviceLock, lock⟩], rfl, ?_⟩
  -- neither answer leaves an entry
  change Environment.Reaches _ _ _ _ ([] ++ ([] ++ [])) _ _
  exact .answered rfl (.answered rfl (.here _ _))

theorem lives_alike {lock : DeviceLock} {policy : RetryPolicy} {steps : List (Session.Step S ν)}
    (drives : ∀ step ∈ steps, step.drives) :
    (Session.lives { format := .surfaceTable, lock := .absent, retry := policy } steps).Alike
      (.across lock)
      (fun value result => ∃ results one other, value = .ok (results, one) ∧
        result = .ok (results, other) ∧ one.framesSubmitted = other.framesSubmitted)
      (Session.lives { format := .textureArray, lock, retry := policy } steps) := by
  have twins : Session.Twins (.across lock)
      { format := .surfaceTable, lock := .absent, retry := policy }
      { format := .textureArray, lock, retry := policy } := ⟨rfl, rfl, rfl, rfl⟩
  apply (performAll_alike drives twins).bind
  rintro ⟨results, one⟩ ⟨_, other⟩ ⟨rfl, twins⟩
  exact .done ⟨results, one, other, rfl, rfl, twins.counts⟩

theorem lives_framed (session : Session) (steps : List (Session.Step S ν)) :
    (session.lives steps).Obeys (framing session.lock) (fun _ _ => True) .idle := by
  rw [Session.lives, Program.obeys_bind]
  exact (performAll_framed session steps).weaken fun _ _ _ => Program.obeys_done.mpr trivial

/-- Over both interfaces the life of a session is the same.  It makes the same calls, which its
driver receives as they are told through the interface; it leaves the same messages and notes; and
it comes to an end with the same results and the same count of frames, or is given up in both. -/
def Backend.SharesLife (backend : Backend S σ (Watched S TableDescriptor ο))
    (mirror : Backend S σ (Watched S ContextDescriptor ο')) (Same : σ → σ → Prop)
    (Agree : ο → ο' → Prop) (policy : RetryPolicy) (steps : List (Session.Step S ν))
    (world twin : World σ) : Prop :=
  ∃ trace said journal entries rest last after ending,
    backend.environment.Reaches (Session.life .surfaceTable policy steps) world trace journal rest
        after ∧
      mirror.environment.Reaches (Session.life .textureArray policy steps) twin said entries last
          ending ∧
        driverCalls trace = driverCalls said ∧
          List.Forall₂ (Entry.Agrees (Watched.Agrees Agree)) journal entries ∧
            List.Forall₂ (Received.Carries Descriptor.ToldByTable) (driverCalls trace)
                (receivedCalls journal) ∧
              List.Forall₂ (Received.Carries Descriptor.ToldByContext) (driverCalls said)
                  (receivedCalls entries) ∧
                Same after.driver ending.driver ∧
                  Stopped
                    (fun value result => ∃ results one other, value = .ok (results, one) ∧
                      result = .ok (results, other) ∧ one.framesSubmitted = other.framesSubmitted)
                    True rest last

/-- The two interfaces are equivalent: sessions with the same policy and the same steps live the
same life over drivers of one kind, whatever the drivers answer and whatever lock is free. -/
theorem interfaces_agree [BEq S] {Same : σ → σ → Prop} {Agree : ο → ο' → Prop}
    {first : Driver UInt32 S TableDescriptor σ ο} {second : Driver UInt32 S ContextDescriptor σ ο'}
    (twins : Driver.Twins first second Same Agree) (table : SurfaceTable S) (slice : S → UInt32)
    (policy : RetryPolicy) {steps : List (Session.Step S ν)}
    (drives : ∀ step ∈ steps, step.drives) {lock : DeviceLock} {world twin : World σ}
    (same : Same world.driver twin.driver) (free : twin.locks.isFree lock = true) :
    (table.backend first.watched).SharesLife (TextureArray.backend second.watched lock slice) Same
      Agree policy steps world twin := by
  have alike := twins.matches.watched.backends table lock slice
  -- The backends answer the queries of an opening differently, so the lockstep starts behind it.
  obtain ⟨early, silent, opened⟩ := table.opens first.watched policy steps world
  obtain ⟨start, still, began⟩ := TextureArray.opens second.watched lock slice policy steps twin
  have both : Phase.idle.BothInStep (.across lock) (table.backend first.watched)
      (TextureArray.backend second.watched lock slice) world twin :=
    ⟨Phase.inStep_idle rfl, Phase.inStep_idle free⟩
  have framed := lives_framed { format := .surfaceTable, lock := .absent, retry := policy } steps
  obtain ⟨trace, said, journal, entries, rest, last, after, ending, final, reached, mirrored, calls,
    agree, ⟨_, ends⟩, stopped⟩ :=
    (lives_alike drives).stop_together (alike.lockstep lock) framed ⟨both, same⟩
  have told : (table.backend first.watched).Hears Descriptor.ToldByTable :=
    Backend.hears rfl (fun _ => rfl) fun _ => rfl
  have mirroredTold :
      (TextureArray.backend second.watched lock slice).Hears Descriptor.ToldByContext :=
    Backend.hears rfl (fun _ => rfl) fun _ => rfl
  have lived := opened.trans reached
  have relived := began.trans mirrored
  refine ⟨_, _, _, _, rest, last, after, ending, lived, relived, ?_, agree, told.of_reaches lived,
    mirroredTold.of_reaches relived, ends, ?_⟩
  · simpa [driverCalls_append, silent, still] using calls
  · exact stopped.weaken (fun _ _ ends => ends.1) fun _ => trivial

/-- A frame that is decoded, a policy without second attempts, and a frame whose assembler
panics. -/
def Session.Step.mixed : List (Session.Step NamedSurface Empty) :=
  [.submit Frame.plain, .setRetry (.ofMaximum 1 0),
    .submit { Frame.plain with assembler := .panic (.message "lost") }]

/-- The device is busy at first, and the end of the second frame fails while a panic unwinds. -/
theorem interfaces_agree_while_unwinding :
    Driver.Twins (Scripted.driver .absent) (Scripted.driver (.mutex 3)) Eq
        Scripted.Event.Agrees ∧
      (∀ step ∈ Session.Step.mixed, step.drives) ∧ ({} : Locks).isFree (.mutex 3) = true ∧
        ((SurfaceTable.mk []).backend (Scripted.driver .absent).watched).SharesLife
          (TextureArray.backend (Scripted.driver (.mutex 3)).watched (.mutex 3) NamedSurface.slice)
          Eq Scripted.Event.Agrees .standard Session.Step.mixed
          { driver :=
              { script := { begins := [.failed .pending], ends := [.ok (), .failed ⟨5⟩] } } }
          { driver :=
              { script := { begins := [.failed .pending], ends := [.ok (), .failed ⟨5⟩] } } } := by
  have twins := Driver.Twins.scripted .absent (.mutex 3)
  have drives : ∀ step ∈ Session.Step.mixed, step.drives := by
    simp [Session.Step.mixed, Session.Step.drives]
  exact ⟨twins, drives, rfl, interfaces_agree twins _ _ _ drives rfl rfl⟩

end HardwareDecode
