/-
Module: HardwareDecode.Proofs.LockDiscipline
Purpose: The locks of a backend under a program that keeps to the order of a session: the device
  lock is held exactly in the phases that hold it, so such a program never waits for itself.
Main exports: Backend.serve_locks, Phase.Move.isHeld_onLocks, Phase.InStep,
  Backend.keepsStep_framing, Phase.InStep.exists_served, Program.Obeys.exists_stop_framed
-/
import HardwareDecode.Backend
import HardwareDecode.Proofs.Framing

namespace HardwareDecode

variable {S ν σ ο α : Type}

/-- What an answered request makes of the locks. -/
def Request.onLocks : Request S ν → Locks → Locks
  | .acquire lock, locks => locks.hold lock
  | .free lock unwinding, locks => locks.free lock unwinding
  | _, locks => locks

theorem Request.onLocks_of_isQuiet {request : Request S ν} (quiet : request.isQuiet)
    (locks : Locks) : request.onLocks locks = locks := by
  cases request <;> first | rfl | exact False.elim quiet

theorem Backend.serve_locks {backend : Backend S σ ο} {request : Request S ν} {world : World σ}
    {served : Served request.Answer (World σ) (Entry ο ν)}
    (answered : backend.serve request world = some served) :
    served.world.locks = request.onLocks world.locks := by
  cases request with
  | acquire lock =>
      simp only [serve, Option.map_eq_some_iff, Locks.take_eq] at answered
      obtain ⟨locks, taken, rfl⟩ := answered
      split at taken
      · cases taken
        rfl
      · cases taken
  | abort => cases answered
  | _ =>
      cases answered
      rfl

/-- A lock is only given while it is free. -/
theorem Backend.isFree_of_serve {backend : Backend S σ ο} {request : Request S ν}
    {world : World σ} {served : Served request.Answer (World σ) (Entry ο ν)}
    (answered : backend.serve request world = some served) (lock : DeviceLock)
    (takes : request = .acquire lock) : world.locks.isFree lock = true := by
  subst takes
  simp only [serve, Option.map_eq_some_iff, Locks.take_eq] at answered
  obtain ⟨locks, taken, _⟩ := answered
  split at taken
  next free => exact free
  next => cases taken

/-- Only a held lock and an abort keep a program waiting. -/
theorem Backend.exists_served (backend : Backend S σ ο) {request : Request S ν} {world : World σ}
    (free : ∀ lock, request = .acquire lock → world.locks.isFree lock = true)
    (goesOn : request ≠ .abort) : ∃ served, backend.serve request world = some served := by
  cases request with
  | acquire lock => simp [serve, Locks.take_eq, free lock rfl]
  | abort => exact absurd rfl goesOn
  | _ => exact ⟨_, rfl⟩

/-- A mutex is held as the phases say, move by move. -/
theorem Phase.Move.isHeld_onLocks {id : Nat} {phase after : Phase} {request : Request S ν}
    {answer : request.Answer} {locks : Locks} (move : Move (.mutex id) phase request answer after)
    (held : locks.isHeld (.mutex id) = phase.holds) :
    (request.onLocks locks).isHeld (.mutex id) = after.holds := by
  cases move with
  | rests quiet => rw [Request.onLocks_of_isQuiet quiet, held]
  | takes => simp [Request.onLocks, Locks.isHeld, Locks.isFree_hold_mutex, Phase.holds]
  | frees => simp [Request.onLocks, Locks.isHeld, Locks.isFree_free_self, Phase.holds]
  | opens | begins | beginFails | works | ends => exact held

theorem Phase.Move.of_opening {lock : DeviceLock} {phase after : Phase} {request : Request S ν}
    {answer : request.Answer} (move : Move lock phase request answer after)
    (still : after = .opening) : phase = .opening := by
  cases move with
  | rests => exact still
  | _ => cases still

/-- The device lock, if there is one, is held as a phase says, and a session that is still to be
opened will be given that lock. -/
structure Phase.InStep (backend : Backend S σ ο) (lock : DeviceLock) (phase : Phase)
    (world : World σ) : Prop where
  named : phase = .opening → backend.lock = lock
  held : ∀ id, lock = .mutex id → world.locks.isHeld lock = phase.holds

theorem Backend.keepsStep_framing (backend : Backend S σ ο) (lock : DeviceLock) :
    (backend.environment : Environment S ν (World σ) (Entry ο ν)).KeepsStep (framing lock)
      (Phase.InStep backend lock) := by
  intro phase world request served inStep allowed answered
  have move := Phase.move_of_allowed allowed served.answer
  constructor
  · cases request with
    | query query =>
        cases query with
        | deviceLock =>
            cases answered
            cases phase with
            | opening => exact inStep.named rfl
            | _ => exact False.elim allowed
        | _ => trivial
    | _ => trivial
  · constructor
    · intro still
      exact inStep.named (move.of_opening still)
    · intro id mutex
      subst mutex
      rw [Backend.serve_locks answered]
      exact move.isHeld_onLocks (inStep.held id rfl)

/-- Where the locks are held as the phase says, everything it allows is answered but an abort. -/
theorem Phase.InStep.exists_served {backend : Backend S σ ο} {lock : DeviceLock} {phase : Phase}
    {world : World σ} {request : Request S ν} (inStep : phase.InStep backend lock world)
    (allowed : phase.allows lock request) (goesOn : request ≠ .abort) :
    ∃ served, backend.serve request world = some served := by
  apply backend.exists_served ?_ goesOn
  rintro wanted rfl
  cases phase with
  | idle =>
      obtain rfl : wanted = lock := allowed
      cases wanted with
      | absent => rfl
      | mutex id => simpa [Locks.isHeld, Phase.holds] using inStep.held id rfl
  | _ => exact False.elim allowed

/-- Over a backend whose locks are held as its phase says, a program comes to its end, unless it
gives everything up. -/
theorem Program.Obeys.exists_stop_framed {backend : Backend S σ ο} {lock : DeviceLock}
    {phase : Phase} {world : World σ} {ends : Phase → α → Prop} {program : Program S ν α}
    (obeys : program.Obeys (framing lock) ends phase) (inStep : phase.InStep backend lock world) :
    ∃ trace journal rest after,
      backend.environment.Reaches program world trace journal rest after ∧
        ((∃ value, rest = .done value) ∨ ∃ resume, rest = .ask .abort resume) :=
  obeys.exists_stop (backend.keepsStep_framing lock)
    (fun inStep allowed goesOn => inStep.exists_served allowed goesOn) inStep

/-- A lock that is free is in step with a session that does nothing. -/
theorem Phase.inStep_idle {backend : Backend S σ ο} {lock : DeviceLock} {world : World σ}
    (free : world.locks.isFree lock = true) : Phase.idle.InStep backend lock world where
  named := nofun
  held _ _ := by simp [Locks.isHeld, free, Phase.holds]

theorem Phase.InStep.isFree_of_idle {backend : Backend S σ ο} {lock : DeviceLock}
    {world : World σ} (inStep : Phase.idle.InStep backend lock world) :
    world.locks.isFree lock = true := by
  cases lock with
  | absent => rfl
  | mutex id => simpa [Locks.isHeld, Phase.holds] using inStep.held id rfl

theorem Phase.holds_of_allows_call {lock : DeviceLock} {phase : Phase} {call : Call S}
    (allowed : phase.allows lock (.call call : Request S ν)) : phase.holds = true := by
  cases phase with
  | opening | idle | ended => cases call <;> exact False.elim allowed
  | holding | inFrame => rfl

end HardwareDecode
