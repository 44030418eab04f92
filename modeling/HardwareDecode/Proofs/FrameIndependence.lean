/-
Module: HardwareDecode.Proofs.FrameIndependence
Purpose: What a session and a recording driver remember of earlier frames.  Once the driver is no
  longer busy, the next submission goes as the first one of a fresh session over a fresh driver with
  the same script, whatever became of the submissions before.
Main exports: Turn, onceBegun, Recording.Abreast, Recording.Backs.lockstep, Recording.Backs.retains,
  Recording.ActsFresh, submissions_are_independent
-/
import HardwareDecode.Proofs.Keeping
import HardwareDecode.Proofs.Likeness
import HardwareDecode.Proofs.RecordingBackend

namespace HardwareDecode

variable {S ν ο : Type}

/-! ### A submission begins at most one frame -/

/-- How far a submission is with its one frame. -/
inductive Turn where
  | beginning
  | begun
  /-- The frame ended in a panic. -/
  | broken

/-- The turn after an answered call. -/
def Turn.called : Turn → (call : Call S) → Outcome call.Answer → Turn
  | _, .beginFrame _, .ok _ => begun
  | _, .endFrame, .panicked _ => broken
  | turn, _, _ => turn

/-- The turn after an answered request. -/
def Turn.next : Turn → (request : Request S ν) → request.Answer → Turn
  | turn, .call call, outcome => turn.called call outcome
  | turn, _, _ => turn

/-- No frame is begun after another one, and only an end that panics may lead to giving up. -/
def onceBegun : Protocol S ν Turn where
  allows
    | turn, .call (.beginFrame _) => turn = .beginning
    | turn, .abort => turn = .broken
    | _, _ => True
  next := Turn.next

theorem onceBegun_ignoresPauses : (onceBegun : Protocol S ν Turn).IgnoresPauses where
  allowed _ request pause := by
    cases request with
    | call _ | abort => exact False.elim pause
    | _ => trivial
  kept _ request answer pause := by
    cases request with
    | call _ => exact False.elim pause
    | _ => rfl

open HardwareDecode.Action

theorem submit_onceBegun {session : Session} {frame : Frame S ν} :
    (session.submit frame).run.Obeys onceBegun (fun _ _ => True) .beginning := by
  have may : (onceBegun : Protocol S ν Turn).MayBegin (· = .beginning) (· = .begun)
      frame.surface :=
    { allowed := fun start => start
      fails := by
        rintro _ outcome rfl failed
        cases outcome with
        | ok value => exact absurd rfl (failed value)
        | _ => rfl
      begins := fun _ => rfl }
  apply submit_obeys onceBegun_ignoresPauses.ignoresLogs
    (begin_obeys onceBegun_ignoresPauses may rfl)
  · intro _ _ _
    trivial
  · rintro _ rfl
    have works : frame.execute.run.Obeys onceBegun (fun turn _ => turn = .begun) .begun := by
      apply execute_asks.obeys
      · intro request work
        rcases request with (_ | _) | _ | _ | _ | _ | _ | _ | _ | _ <;>
          first | exact False.elim work | trivial
      · intro request work answer
        rcases request with (_ | _) | _ | _ | _ | _ | _ | _ | _ | _ <;>
          first | exact False.elim work | rfl
    apply works.weaken
    rintro _ executed rfl
    exact {
      ended := trivial
      freed := fun _ _ => ⟨trivial, trivial⟩
      aborted := fun _ _ => rfl }

theorem perform_submit_onceBegun {session : Session} {frame : Frame S ν} :
    (session.perform (.submit frame)).Obeys onceBegun (fun _ _ => True) .beginning := by
  rw [Session.perform, Program.obeys_bind]
  apply submit_onceBegun.weaken
  intro _ result _
  cases result <;> exact Program.obeys_done.mpr trivial

/-! ### Observed locks -/

namespace Locks

variable {locks others : Locks} {observed : DeviceLock}

theorem isHeld_hold_congr (same : locks.isHeld observed = others.isHeld observed)
    (lock : DeviceLock) :
    (locks.hold lock).isHeld observed = (others.hold lock).isHeld observed := by
  cases observed with
  | absent => rfl
  | mutex id =>
      cases lock with
      | absent => exact same
      | mutex other =>
          simp only [isHeld, isFree_mutex, hold, List.mem_cons, Bool.not_not] at same ⊢
          simp [same]

theorem isHeld_free_congr (same : locks.isHeld observed = others.isHeld observed)
    (lock : DeviceLock) (unwinding : Bool) :
    (locks.free lock unwinding).isHeld observed = (others.free lock unwinding).isHeld observed := by
  cases observed with
  | absent => rfl
  | mutex id =>
      cases lock with
      | absent => exact same
      | mutex other =>
          simp only [isHeld, isFree_mutex, free, List.mem_filter, Bool.not_not] at same ⊢
          simp [same]

/-- Holding a lock leaves the other locks as they are. -/
theorem isHeld_hold_of_ne {lock : DeviceLock} (differs : observed ≠ lock) :
    (locks.hold lock).isHeld observed = locks.isHeld observed := by
  cases observed with
  | absent => rfl
  | mutex id =>
      cases lock with
      | absent => rfl
      | mutex own =>
          have ids : id ≠ own := fun same => differs (congrArg _ same)
          simp [isHeld, isFree_mutex, hold, ids]

theorem isHeld_free_of_ne {lock : DeviceLock} (differs : observed ≠ lock) (unwinding : Bool) :
    (locks.free lock unwinding).isHeld observed = locks.isHeld observed := by
  cases observed with
  | absent => rfl
  | mutex id =>
      cases lock with
      | absent => rfl
      | mutex own =>
          have ids : id ≠ own := fun same => differs (congrArg _ same)
          simp [isHeld, isFree_mutex, free, ids]

end Locks

namespace Recording

variable {observed : DeviceLock}

/-! ### Drivers that are abreast -/

/-- The driver is past its busy begins, or fails all begins alike. -/
def State.Ready (state : State) : Prop :=
  state.script.beginStatus.isSome ∨
    state.script.busyBegins ≤ state.beginCalls ∧ state.beginCalls.toNat + 1 < UInt32.size

/-- What was recorded since an earlier state. -/
def State.Gains (start : State) (records : List Record) (entries : List Submitted)
    (state : State) : Prop :=
  state.records = start.records ++ records ∧ state.submitted = start.submitted ++ entries

/-- A driver that is past its busy begins does not find itself busy. -/
theorem State.Ready.not_busy {state : State} (ready : state.Ready)
    (unfailing : state.script.beginStatus = none) :
    ¬state.beginCalls + 1 ≤ state.script.busyBegins := by
  rcases ready with fails | ⟨past, room⟩
  · simp [unfailing] at fails
  · rw [UInt32.le_iff_toNat_le] at past ⊢
    have next : (state.beginCalls + 1).toNat = state.beginCalls.toNat + 1 := by
      rw [UInt32.toNat_add]
      exact Nat.mod_eq_of_lt room
    omega

/-- Two drivers at the same point of like submissions: the scripts differ only in the busy begins,
the same was recorded by both since they started, and once the frame has begun they keep the same
buffers. -/
structure Abreast (start begun : State) (turn : Turn) (one other : State) : Prop where
  script : other.script = { one.script with busyBegins := 0 }
  gains : ∃ records entries, start.Gains records entries one ∧ begun.Gains records entries other
  ready : turn = .beginning → one.Ready ∧ other.Ready
  buffers : turn = .begun → one.buffers = other.buffers
  unbroken : turn ≠ .broken

namespace Abreast

variable {start begun one other : State} {turn : Turn} {locks others : Locks}

/-- Both receive a call. -/
theorem record (abreast : Abreast start begun turn one other)
    (flags : locks.isHeld observed = others.isHeld observed) (call : Call) :
    Abreast start begun turn (one.record observed locks call)
      (other.record observed others call) := by
  obtain ⟨records, entries, first, second⟩ := abreast.gains
  refine { abreast with gains := ⟨records ++ [⟨call, locks.isHeld observed⟩], entries, ?_, ?_⟩ }
  · exact ⟨by simp [State.record, first.1], first.2⟩
  · exact ⟨by simp [State.record, second.1, flags], second.2⟩

/-- Both give a buffer new contents. -/
theorem put (abreast : Abreast start begun .begun one other) (kind : BufferKind) (bytes : Bytes) :
    Abreast start begun .begun { one with buffers := one.buffers.put kind bytes }
      { other with buffers := other.buffers.put kind bytes } :=
  { abreast with
    ready := nofun
    buffers := fun _ => congrArg (·.put kind bytes) (abreast.buffers rfl) }

/-- Both execute a batch. -/
theorem execute (abreast : Abreast start begun turn one other) (batch : List Submitted) :
    Abreast start begun turn { one with submitted := one.submitted ++ batch }
      { other with submitted := other.submitted ++ batch } := by
  obtain ⟨records, entries, first, second⟩ := abreast.gains
  refine { abreast with gains := ⟨records, entries ++ batch, ?_, ?_⟩ }
  · exact ⟨first.1, by simp [first.2]⟩
  · exact ⟨second.1, by simp [second.2]⟩

end Abreast

/-- The replies have one outcome, and leave the drivers abreast. -/
abbrev Replied {α : Type} (start begun : State) (turn : Outcome α → Turn)
    (one other : Reply α (InFlight × State) ο) : Prop :=
  one.Matches (fun state twin => Abreast start begun (turn one.outcome) state.2 twin.2)
    (fun _ _ => True) other

namespace Abreast

variable {start begun : State} {state twin : InFlight × State} {locks others : Locks}

theorem beginFrame (abreast : Abreast start begun .beginning state.2 twin.2)
    (flags : locks.isHeld observed = others.isHeld observed) (surface : UInt32) :
    Replied start begun (Turn.beginning.called (.beginFrame surface))
      ((plain observed).beginFrame surface locks state : Reply Unit _ ο)
      ((plain observed).beginFrame surface others twin) := by
  have scripted : twin.2.script.beginStatus = state.2.script.beginStatus := by rw [abreast.script]
  have recorded := abreast.record flags (.beginFrame surface)
  obtain ⟨ready, prepared⟩ := abreast.ready rfl
  simp only [plain, Driver.encoded, driver, Recording.beginFrame, State.record, scripted]
    at recorded ⊢
  cases status : state.2.script.beginStatus with
  | some status =>
      have fails : state.2.script.beginStatus.isSome = true := by simp [status]
      exact ⟨rfl, { recorded with ready := fun _ => ⟨.inl fails, .inl (scripted ▸ fails)⟩ }, .nil⟩
  | none =>
      simp only [ready.not_busy status, prepared.not_busy (scripted.trans status), ↓reduceIte]
      exact ⟨rfl,
        { recorded with
          ready := fun same => by cases same
          buffers := fun _ => rfl
          unbroken := fun same => by cases same }, .nil⟩

variable (abreast : Abreast start begun .begun state.2 twin.2)
  (flags : locks.isHeld observed = others.isHeld observed)

include abreast flags

theorem getBuffer (kind : BufferKind) :
    Replied start begun (Turn.begun.called (.getBuffer kind : HardwareDecode.Call UInt32))
      ((plain observed).getBuffer kind locks state : Reply Bytes _ ο)
      ((plain observed).getBuffer kind others twin) := by
  have scripted : twin.2.script.getStatus = state.2.script.getStatus := by rw [abreast.script]
  cases refused : failing state.2.script.getStatus kind with
  | some status =>
      have mirrored : failing twin.2.script.getStatus kind = some status := by
        rw [scripted, refused]
      rw [plain_getBuffer_of_some refused, plain_getBuffer_of_some mirrored]
      exact ⟨rfl, abreast.record flags _, .nil⟩
  | none =>
      have mirrored : failing twin.2.script.getStatus kind = none := by rw [scripted, refused]
      have lent : twin.2.lent kind = state.2.lent kind := by
        rw [State.lent, State.lent, abreast.buffers rfl, abreast.script]
        rfl
      rw [plain_getBuffer_of_none refused, plain_getBuffer_of_none mirrored]
      simp only [lent]
      exact ⟨rfl, (abreast.record flags _).put kind (state.2.lent kind), .nil⟩

theorem releaseBuffer (kind : BufferKind) :
    Replied start begun (Turn.begun.called (.releaseBuffer kind : HardwareDecode.Call UInt32))
      ((plain observed).releaseBuffer kind locks state : Reply Unit _ ο)
      ((plain observed).releaseBuffer kind others twin) := by
  rw [plain_releaseBuffer, plain_releaseBuffer, abreast.script]
  exact ⟨rfl, abreast.record flags _, .nil⟩

theorem submitBuffers (batch : List Descriptor) :
    Replied start begun (Turn.begun.called (.submitBuffers batch : HardwareDecode.Call UInt32))
      ((plain observed).submitBuffers batch locks state : Reply Unit _ ο)
      ((plain observed).submitBuffers batch others twin) := by
  have scripted : twin.2.script.submitStatus = state.2.script.submitStatus := by rw [abreast.script]
  simp only [plain, Driver.encoded, driver, Recording.submitBuffers, abreast.buffers rfl]
  cases inspectAll twin.2.buffers (batch.map id) with
  | failed status => exact ⟨rfl, abreast, .nil⟩
  | panicked cause => exact ⟨rfl, abreast, .nil⟩
  | ok submitted =>
      have recorded := abreast.record flags (.submitBuffers (submitted.map Submitted.kind))
      simp only [State.record, scripted] at recorded ⊢
      cases state.2.script.submitStatus with
      | some status => exact ⟨rfl, recorded, .nil⟩
      | none => exact ⟨rfl, recorded.execute submitted, .nil⟩

theorem endFrame :
    Replied start begun (Turn.begun.called (.endFrame : HardwareDecode.Call UInt32))
      ((plain observed).endFrame locks state : Reply Unit _ ο)
      ((plain observed).endFrame others twin) := by
  have scripted : twin.2.script.endStatus = state.2.script.endStatus := by rw [abreast.script]
  simp only [plain, Driver.encoded, driver, Recording.endFrame, scripted]
  refine ⟨rfl, ?_, .nil⟩
  cases state.2.script.endStatus <;> exact abreast.record flags _

end Abreast

end Recording

/-! ### Submissions in step -/

/-- Sessions with the same lock, whatever they have counted. -/
def Likeness.fresh (lock : DeviceLock) : Likeness where
  lock := lock
  twin := lock
  counts _ _ := True
  counts_next _ := trivial

theorem Likeness.fresh_leaves (lock : DeviceLock) :
    (Likeness.fresh lock).Leaves (fun _ _ : ο => True) (fun _ _ : Entry ο ν => True) where
  event _ := trivial
  log _ := trivial
  note _ := trivial
  counted _ := trivial

theorem Request.Pairs.isHeld_congr {lock observed : DeviceLock} {one other : Request S ν}
    {Answers : one.Answer → other.Answer → Prop} (pairs : one.Pairs (.fresh lock) other Answers)
    {locks others : Locks} (same : locks.isHeld observed = others.isHeld observed) :
    (one.onLocks locks).isHeld observed = (other.onLocks others).isHeld observed := by
  cases pairs with
  | acquire => exact Locks.isHeld_hold_congr same lock
  | free unwinding => exact Locks.isHeld_free_congr same lock unwinding
  | counted => exact same
  | same shared =>
      cases one with
      | acquire _ | free _ _ | query _ => exact False.elim shared
      | _ => exact same

theorem Phase.inFrame_of_allows_call {lock : DeviceLock} {phase : Phase} {call : Call S}
    (allowed : phase.allows lock (.call call : Request S ν))
    (other : ∀ surface, call ≠ .beginFrame surface) : phase = .inFrame := by
  cases phase with
  | inFrame => rfl
  | holding =>
      cases call with
      | beginFrame surface => exact absurd rfl (other surface)
      | _ => exact False.elim allowed
  | _ => cases call <;> exact False.elim allowed

theorem Phase.inFrame_of_allows_store {lock : DeviceLock} {phase : Phase} {kind : BufferKind}
    {contents : Bytes} (allowed : phase.allows lock (.store kind contents : Request S ν)) :
    phase = .inFrame := by
  cases phase with
  | inFrame => rfl
  | _ => exact False.elim allowed

/-- In an open frame the turn has begun. -/
theorem Turn.begun_of_inFrame {lock : DeviceLock} {phase : Phase} {turn : Turn}
    {request : Request S ν} (allowed : phase.allows lock request) (answer : request.Answer)
    (opened : phase = .inFrame → turn = .begun) (inside : phase.next request answer = .inFrame) :
    turn.next request answer = .begun := by
  have move := Phase.move_of_allowed allowed answer
  rw [inside] at move
  cases move with
  | rests quiet =>
      obtain rfl := opened rfl
      cases request <;> first | rfl | exact False.elim quiet
  | begins surface => rfl
  | @works call outcome work =>
      obtain rfl := opened rfl
      cases call <;> first | rfl | exact False.elim work

namespace Recording

/-- Two sessions at the same point of like submissions, each over a backend of its own. -/
structure InStep (observed : DeviceLock) (backend : Backend UInt32 (InFlight × State) ο)
    (lock : DeviceLock) (start begun : State) (states : Phase × Turn)
    (world twin : World (InFlight × State)) : Prop where
  locks : states.1.BothInStep (.fresh lock) backend backend world twin
  flags : world.locks.isHeld observed = twin.locks.isHeld observed
  opened : states.1 = .inFrame → states.2 = .begun
  drivers : Abreast start begun states.2 world.driver.2 twin.driver.2

section

variable {observed lock : DeviceLock} {backend : Backend UInt32 (InFlight × State) ο}
  {start begun : State} {states : Phase × Turn} {world twin : World (InFlight × State)}

/-- While two sessions are in step their drivers reply alike. -/
theorem Backs.replied (backs : Backs observed backend)
    (inStep : InStep observed backend lock start begun states world twin)
    {call : HardwareDecode.Call UInt32}
    (framed : states.1.allows lock (.call call : Request UInt32 ν))
    (once : (onceBegun : Protocol UInt32 ν Turn).allows states.2 (.call call)) :
    Replied start begun (states.2.called call) (backend.reply call world.locks world.driver)
      (backend.reply call twin.locks twin.driver) := by
  obtain ⟨phase, turn⟩ := states
  have abreast := inStep.drivers
  have flags := inStep.flags
  have opened (works : ∀ surface, call ≠ .beginFrame surface) : turn = .begun :=
    inStep.opened (Phase.inFrame_of_allows_call framed works)
  simp only [Backend.reply, backs.driver_eq]
  cases call with
  | beginFrame surface =>
      obtain rfl : turn = .beginning := once
      exact abreast.beginFrame flags surface
  | getBuffer kind =>
      obtain rfl := opened fun _ same => by cases same
      exact abreast.getBuffer flags kind
  | releaseBuffer kind =>
      obtain rfl := opened fun _ same => by cases same
      exact abreast.releaseBuffer flags kind
  | submitBuffers batch =>
      obtain rfl := opened fun _ same => by cases same
      exact abreast.submitBuffers flags batch
  | endFrame =>
      obtain rfl := opened fun _ same => by cases same
      exact abreast.endFrame flags

theorem InStep.serve (backs : Backs observed backend)
    (inStep : InStep observed backend lock start begun states world twin)
    {one other : Request UInt32 ν} {Answers : one.Answer → other.Answer → Prop}
    (allowed : ((framing lock).both onceBegun).allows states one)
    (pairs : one.Pairs (.fresh lock) other Answers)
    {served : Served one.Answer (World (InFlight × State)) (Entry ο ν)}
    {mirrored : Served other.Answer (World (InFlight × State)) (Entry ο ν)}
    (answered : backend.serve one world = some served)
    (replied : backend.serve other twin = some mirrored) :
    Answers served.answer mirrored.answer ∧
      Abreast start begun (states.2.next one served.answer) served.world.driver.2
        mirrored.world.driver.2 ∧
      List.Forall₂ (fun _ _ => True) served.journal mirrored.journal := by
  obtain ⟨phase, turn⟩ := states
  obtain ⟨framed, once⟩ := allowed
  apply pairs.served (Likeness.fresh_leaves lock)
    (fun request answer state twin => Abreast start begun (turn.next request answer) state.2 twin.2)
    ?_ ?_ ?_ answered replied
  · rintro call rfl
    exact backs.replied inStep framed once
  · rintro kind contents rfl
    obtain rfl : turn = .begun := inStep.opened (Phase.inFrame_of_allows_store framed)
    simp only [backs.driver_eq, plain_store]
    exact inStep.drivers.put kind contents
  · intro silent answer
    have still : turn.next one answer = turn := by
      cases one with
      | call call => exact absurd rfl (silent call)
      | _ => rfl
    rw [still]
    exact inStep.drivers

/-- A backend over a recording driver takes two like submissions from request to request in step,
wherever each of them starts. -/
theorem Backs.lockstep (backs : Backs observed backend) (lock : DeviceLock) (start begun : State) :
    (backend.environment : Environment UInt32 ν _ _).Lockstep (.fresh lock) backend.environment
      ((framing lock).both onceBegun) (InStep observed backend lock start begun)
      fun _ _ => True := by
  intro states world twin one other Answers inStep allowed pairs goesOn
  obtain ⟨served, mirrored, answered, replied⟩ :=
    inStep.locks.exists_served allowed.1 pairs goesOn
  obtain ⟨answers, drivers, journals⟩ := inStep.serve backs allowed pairs answered replied
  obtain ⟨expected, locks⟩ := inStep.locks.next allowed.1 pairs answered replied answers
  refine ⟨served, mirrored, answered, replied, answers, ⟨expected, trivial⟩, ?_, journals⟩
  refine ⟨locks, ?_, Turn.begun_of_inFrame allowed.1 served.answer inStep.opened, drivers⟩
  rw [Backend.serve_locks answered, Backend.serve_locks replied]
  exact pairs.isHeld_congr inStep.flags

end

end Recording

/-! ### What a history leaves -/

/-- A session touches no lock but its own. -/
theorem Phase.isHeld_onLocks {lock other : DeviceLock} {phase : Phase} {request : Request S ν}
    (allowed : phase.allows lock request) (differs : other ≠ lock) (locks : Locks) :
    (request.onLocks locks).isHeld other = locks.isHeld other := by
  cases request with
  | acquire wanted =>
      cases phase with
      | idle =>
          obtain rfl : wanted = lock := allowed
          exact Locks.isHeld_hold_of_ne differs
      | _ => exact False.elim allowed
  | free held unwinding =>
      cases phase with
      | holding | ended =>
          obtain rfl : held = lock := allowed
          exact Locks.isHeld_free_of_ne differs unwinding
      | _ => exact False.elim allowed
  | _ => rfl

namespace Recording

/-- The backend never changes its script, and holds no lock for a session but its own. -/
theorem Backs.keepsStep_retaining {observed : DeviceLock}
    {backend : Backend UInt32 (InFlight × State) ο} (backs : Backs observed backend)
    (lock : DeviceLock) (first : World (InFlight × State)) :
    (backend.environment : Environment UInt32 ν _ _).KeepsStep (framing lock) fun phase world =>
      phase.InStep backend lock world ∧ world.driver.2.script = first.driver.2.script ∧
        ∀ other, other ≠ lock → world.locks.isHeld other = first.locks.isHeld other := by
  rintro phase world request served ⟨inStep, script, others⟩ allowed answered
  obtain ⟨expected, next⟩ := backend.keepsStep_framing lock inStep allowed answered
  refine ⟨expected, next, (backs.script_serve answered).trans script, fun other differs => ?_⟩
  rw [Backend.serve_locks answered, Phase.isHeld_onLocks allowed differs, others other differs]

/-- A session leaves the script as it is, and all locks as it found them. -/
theorem Backs.retains {observed : DeviceLock} {backend : Backend UInt32 (InFlight × State) ο}
    (backs : Backs observed backend) {session : Session}
    {history : List (Session.Step UInt32 ν)} {world : World (InFlight × State)}
    {before : Finished (List Session.Result × Session) (World (InFlight × State)) (Entry ο ν)}
    (free : world.locks.isFree session.lock = true)
    (ran : backend.run (session.performAll history) world = some before) :
    before.value.2.lock = session.lock ∧
      before.world.driver.2.script = world.driver.2.script ∧
        ∀ lock, before.world.locks.isHeld lock = world.locks.isHeld lock := by
  obtain ⟨trace, reached⟩ := Environment.run_eq_some_iff.mp ran
  obtain ⟨rest, inStep, script, others⟩ := (performAll_framed session history).of_reaches
    (backs.keepsStep_retaining session.lock world)
    ⟨Phase.inStep_idle free, rfl, fun _ _ => rfl⟩ reached
  obtain ⟨idle, same⟩ := Program.obeys_done.mp rest
  refine ⟨same, script, fun lock => ?_⟩
  by_cases own : lock = session.lock
  · subst own
    rw [idle] at inStep
    simp only [Locks.isHeld, inStep.isFree_of_idle, free]
  · exact others lock own

end Recording

/-- A submission goes like the first one of a fresh session with the same lock and the same policy:
both come to an end with one result, the same is recorded of both, and the lock is free after
both. -/
def Recording.ActsFresh (backend : Backend UInt32 (Recording.InFlight × Recording.State) ο)
    (session : Session) (frame : Frame UInt32 ν)
    (world fresh : World (Recording.InFlight × Recording.State)) : Prop :=
  ∃ next first records entries,
    backend.run (session.perform (.submit frame)) world = some next ∧
      backend.run
          (Session.perform
            { format := session.format, lock := session.lock, retry := session.retry }
            (.submit frame)) fresh = some first ∧
        next.value.1 = first.value.1 ∧
          world.driver.2.Gains records entries next.world.driver.2 ∧
            fresh.driver.2.Gains records entries first.world.driver.2 ∧
              next.world.locks.isFree session.lock = true ∧
                first.world.locks.isFree session.lock = true

/-- Once a driver is past its busy begins, the next submission goes like the first one to a fresh
driver with the same script and no busy begins.  Whatever came before does not matter. -/
theorem submissions_are_independent {observed : DeviceLock}
    {backend : Backend UInt32 (Recording.InFlight × Recording.State) ο}
    (backs : Recording.Backs observed backend) {session : Session}
    {history : List (Session.Step UInt32 ν)} (frame : Frame UInt32 ν)
    {world : World (Recording.InFlight × Recording.State)}
    {before : Finished (List Session.Result × Session)
      (World (Recording.InFlight × Recording.State)) (Entry ο ν)}
    (free : world.locks.isFree session.lock = true)
    (ran : backend.run (session.performAll history) world = some before)
    (past : world.driver.2.script.busyBegins ≤ before.world.driver.2.beginCalls)
    (room : before.world.driver.2.beginCalls.toNat + 1 < UInt32.size)
    (fresh : World (Recording.InFlight × Recording.State))
    (freshDriver : fresh.driver.2 =
      { script := { world.driver.2.script with busyBegins := 0 } })
    (freshLock : fresh.locks.isFree session.lock = true)
    (freshObserved : fresh.locks.isHeld observed = world.locks.isHeld observed) :
    Recording.ActsFresh backend before.value.2 frame before.world fresh := by
  obtain ⟨lock, script, locks⟩ := backs.retains free ran
  rw [← lock] at free freshLock
  have still : before.world.locks.isFree before.value.2.lock = true := by
    have same := locks before.value.2.lock
    simpa [Locks.isHeld, free] using same
  have twins : before.value.2.Twins (.fresh before.value.2.lock)
      { format := before.value.2.format, lock := before.value.2.lock
        retry := before.value.2.retry } := ⟨rfl, rfl, rfl, trivial⟩
  -- The old driver is past its busy begins, and the fresh one has none.
  have prepared : fresh.driver.2.script.busyBegins ≤ fresh.driver.2.beginCalls ∧
      fresh.driver.2.beginCalls.toNat + 1 < UInt32.size := by
    rw [freshDriver]
    exact ⟨UInt32.le_refl 0, (by decide : (0 : UInt32).toNat + 1 < UInt32.size)⟩
  have drivers : Recording.Abreast before.world.driver.2 fresh.driver.2 .beginning
      before.world.driver.2 fresh.driver.2 :=
    { script := by rw [freshDriver, script]
      gains := ⟨[], [], by simp [Recording.State.Gains], by simp [Recording.State.Gains]⟩
      ready := fun _ => ⟨.inr ⟨script ▸ past, room⟩, .inr prepared⟩
      buffers := fun same => by cases same
      unbroken := fun same => by cases same }
  have inStep : Recording.InStep observed backend before.value.2.lock before.world.driver.2
      fresh.driver.2 (.idle, .beginning) before.world fresh :=
    { locks := ⟨Phase.inStep_idle still, Phase.inStep_idle freshLock⟩
      flags := (locks observed).trans freshObserved.symm
      opened := fun same => by cases same
      drivers }
  have alike : (before.value.2.perform (.submit frame)).Alike (.fresh before.value.2.lock) _
      (Session.perform
        { format := before.value.2.format, lock := before.value.2.lock
          retry := before.value.2.retry } (.submit frame)) := perform_alike trivial twins
  obtain ⟨trace, said, journal, notes, rest, last, after, ending, final, reached, mirrored, _, _,
    inStep, stopped⟩ :=
    alike.stop_together (backs.lockstep before.value.2.lock _ _)
      (perform_framed.both perform_submit_onceBegun) inStep
  cases stopped with
  | aborted aborts =>
      -- Giving up takes an end that panics, and no end of a recording driver does.
      exact absurd aborts.2 inStep.drivers.unbroken
  | @ended value result ends =>
      obtain ⟨⟨same, _⟩, ⟨idle, _⟩, _⟩ := ends
      obtain ⟨records, entries, gains, gained⟩ := inStep.drivers.gains
      have locks := inStep.locks
      rw [idle] at locks
      exact ⟨⟨value, after, journal⟩, ⟨result, ending, notes⟩, records, entries,
        Environment.run_eq_some_iff.mpr ⟨trace, reached⟩,
        Environment.run_eq_some_iff.mpr ⟨said, mirrored⟩, same, gains, gained,
        locks.one.isFree_of_idle, locks.other.isFree_of_idle⟩

/-- A session whose first frame finds the device busy twice and panics then. -/
def Session.Step.panicking : List (Session.Step UInt32 Empty) :=
  [.submit
      { surface := 1
        pictureParameters := [1, 2]
        assembler := .commit .bitstream [3] 1 fun _ => .panic (.message "lost") },
    .setRetry (.ofMaximum 3 0)]

/-- A frame with all payloads. -/
def Frame.complete : Frame UInt32 Empty where
  surface := 2
  pictureParameters := [4]
  assembler := .committing [⟨.bitstream, [5, 6], 7⟩, ⟨.sliceControl, [8], 9⟩]

/-- A driver that is busy at its first two begins, and cannot end a frame. -/
def Recording.reluctant : Recording.Script where
  busyBegins := 2
  endStatus := some ⟨5⟩

theorem submission_is_independent_of_panic :
    ∃ before,
      Recording.Backs (.mutex 0) Recording.observedContext ∧
        ({} : Locks).isFree (.mutex 0) = true ∧
          Recording.observedContext.run
              (Session.performAll { format := .textureArray, lock := .mutex 0 }
                Session.Step.panicking)
              { driver := (none, { script := Recording.reluctant }) } = some before ∧
            Recording.reluctant.busyBegins ≤ before.world.driver.2.beginCalls ∧
              before.world.driver.2.beginCalls.toNat + 1 < UInt32.size ∧
                Recording.ActsFresh Recording.observedContext before.value.2 Frame.complete
                  before.world
                  { driver :=
                      (none, { script := { Recording.reluctant with busyBegins := 0 } }) } := by
  have finishes : (Recording.observedContext.run
      (Session.performAll { format := .textureArray, lock := .mutex 0 } Session.Step.panicking)
      { driver := (none, { script := Recording.reluctant }) }).any (fun before =>
        Recording.reluctant.busyBegins ≤ before.world.driver.2.beginCalls ∧
          before.world.driver.2.beginCalls.toNat + 1 < UInt32.size) = true := by
    decide +kernel
  obtain ⟨before, ran, reached⟩ := (Option.any_eq_true _ _).mp finishes
  obtain ⟨past, room⟩ := of_decide_eq_true reached
  have backs : Recording.Backs (.mutex 0) Recording.observedContext := .textureArray _ _
  exact ⟨before, backs, rfl, ran, past, room,
    submissions_are_independent backs Frame.complete rfl ran past room _ rfl rfl rfl⟩

end HardwareDecode
