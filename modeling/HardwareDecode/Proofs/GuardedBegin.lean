/-
Module: HardwareDecode.Proofs.GuardedBegin
Purpose: The device lock while a frame is begun, whatever the callers of a policy supply.  It is
  held at every attempt, free during every wait, held by the one who got a frame, and free again if
  there is none.  That a lock was poisoned, by whatever panic, is never noticed.
Main exports: Callbacks.keepsStep_framing, Callbacks.exists_done, Callbacks.quiet,
  Callbacks.exists_mirrored, Callbacks.exists_phase, Callbacks.inStep_of_run,
  Callbacks.GuardsBegins, begins_are_guarded
-/
import HardwareDecode.Proofs.FrameIndependence
import HardwareDecode.Retry.Callbacks

namespace HardwareDecode

variable {σ τ α : Type}

/-- To poison a lock leaves it free. -/
theorem Locks.isHeld_poison {locks after : Locks} {lock : DeviceLock}
    (poisoned : locks.poison lock = some after) (observed : DeviceLock) :
    after.isHeld observed = locks.isHeld observed := by
  simp only [poison, Option.map_eq_some_iff, take_eq] at poisoned
  obtain ⟨taken, had, rfl⟩ := poisoned
  split at had
  next free =>
    cases had
    by_cases same : observed = lock
    · subst same
      simp [isHeld, isFree_free_self, free]
    · rw [isHeld_free_of_ne same, isHeld_hold_of_ne same]
  next => cases had

theorem Locks.exists_poison {locks : Locks} {lock : DeviceLock}
    (free : locks.isFree lock = true) : ∃ after, locks.poison lock = some after := by
  simp [poison, take_eq, free]

namespace Callbacks

variable {callbacks : Callbacks σ} {lock : DeviceLock} {phase : Phase} {world : World σ}

/-- The callbacks leave every lock as free as it was. -/
theorem serve_isHeld {request : Request Unit Empty}
    {served : Served request.Answer (World σ) (Entry Rehearsal.Event Empty)}
    (answered : callbacks.serve lock request world = some served) (observed : DeviceLock) :
    served.world.locks.isHeld observed = (request.onLocks world.locks).isHeld observed := by
  cases request with
  | call call =>
      cases call with
      | beginFrame surface =>
          cases answered
          rfl
      | _ => cases answered
  | sleep nanoseconds =>
      simp only [serve, Option.map_eq_some_iff] at answered
      obtain ⟨locks, left, rfl⟩ := answered
      split at left
      · exact Locks.isHeld_poison left observed
      · cases left
        rfl
  | acquire wanted =>
      simp only [serve, Option.map_eq_some_iff, Locks.take_eq] at answered
      obtain ⟨locks, taken, rfl⟩ := answered
      split at taken
      · cases taken
        rfl
      · cases taken
  | free held unwinding | log record =>
      cases answered
      rfl
  | store | note | query | abort => cases answered

/-- The lock, if there is one, is held as a phase says. -/
def InStep (lock : DeviceLock) (phase : Phase) (world : World σ) : Prop :=
  ∀ id, lock = .mutex id → world.locks.isHeld lock = phase.holds

theorem keepsStep_framing (callbacks : Callbacks σ) (lock : DeviceLock) :
    (callbacks.environment lock).KeepsStep (framing lock) (InStep lock) := by
  intro phase world request served inStep allowed answered
  constructor
  · cases request with
    | query query => cases answered
    | _ => trivial
  · intro id mutex
    subst mutex
    rw [serve_isHeld answered]
    exact (Phase.move_of_allowed allowed served.answer).isHeld_onLocks (inStep id rfl)

theorem inStep_idle (free : world.locks.isFree lock = true) : InStep lock .idle world := by
  intro id mutex
  simp [Locks.isHeld, free, Phase.holds]

theorem InStep.isFree (inStep : InStep lock phase world) (unheld : phase.holds = false) :
    world.locks.isFree lock = true := by
  cases lock with
  | absent => rfl
  | mutex id => simpa [Locks.isHeld, unheld] using inStep id rfl

/-- What a begin asks for in a phase is answered, if the lock is held as the phase says. -/
theorem exists_served {request : Request Unit Empty} (inStep : InStep lock phase world)
    (allowed : phase.allows lock request) (opens : request.isOpening) :
    ∃ served, callbacks.serve lock request world = some served := by
  cases request with
  | call call =>
      cases call with
      | beginFrame surface => exact ⟨_, rfl⟩
      | _ => exact False.elim opens
  | sleep nanoseconds =>
      have free : world.locks.isFree lock = true := by
        cases phase with
        | idle => exact inStep.isFree rfl
        | _ => exact False.elim allowed
      obtain ⟨locks, poisoned⟩ := Locks.exists_poison free
      simp only [serve, poisoned]
      split <;> exact ⟨_, rfl⟩
  | acquire wanted =>
      cases phase with
      | idle =>
          obtain rfl : wanted = lock := allowed
          simp [serve, Locks.take_eq, inStep.isFree rfl]
      | _ => exact False.elim allowed
  | free held unwinding | log record => exact ⟨_, rfl⟩
  | store | note | query | abort => exact False.elim opens

variable {policy : RetryPolicy}

/-- A policy tried on a free lock comes to its end. -/
theorem exists_done (callbacks : Callbacks σ) (policy : RetryPolicy)
    (free : world.locks.isFree lock = true) :
    ∃ trace journal result after,
      (callbacks.environment lock).Reaches (policy.begin lock ()).run world trace journal
        (.done result) after := by
  have obeys : (policy.begin lock () : Action Unit Empty Unit).run.Obeys
      ((framing lock).both (.asking Request.isOpening)) _ (Phase.idle, ()) :=
    begin_framed.both begin_asks
  have keeps : (callbacks.environment lock).KeepsStep
      ((framing lock).both (.asking Request.isOpening)) fun state world =>
        InStep lock state.1 world := by
    intro state world request served inStep allowed answered
    obtain ⟨expected, still⟩ := callbacks.keepsStep_framing lock inStep allowed.1 answered
    exact ⟨⟨expected, trivial⟩, still⟩
  obtain ⟨trace, journal, rest, after, reached, stopped⟩ := obeys.exists_stop keeps
    (fun inStep allowed _ => exists_served inStep allowed.1 allowed.2) (inStep_idle free)
  rcases stopped with ⟨result, rfl⟩ | ⟨resume, rfl⟩
  · exact ⟨trace, journal, result, after, reached⟩
  · have aborts := (obeys.of_reaches keeps (inStep_idle free) reached).1
    exact False.elim (Program.obeys_ask.mp aborts).1.2

/-! ### Poison -/

/-- The same callbacks, during whose waits nobody panics while holding the lock. -/
def quiet (callbacks : Callbacks σ) : Callbacks σ where
  begin := callbacks.begin
  sleep nanoseconds held state :=
    ({ result := (callbacks.sleep nanoseconds held state).1.result },
      (callbacks.sleep nanoseconds held state).2)

/-- The callbacks are in one state, and the lock is held in both worlds or in neither. -/
structure Mirrors (lock : DeviceLock) (world twin : World σ) : Prop where
  driver : twin.driver = world.driver
  held : twin.locks.isHeld lock = world.locks.isHeld lock

theorem Mirrors.isFree {twin : World σ} (mirrors : Mirrors lock world twin) :
    twin.locks.isFree lock = world.locks.isFree lock := by
  simpa [Locks.isHeld] using mirrors.held

/-- What the callbacks answer does not depend on what was poisoned. -/
theorem Mirrors.exists_served {twin : World σ} {request : Request Unit Empty}
    {served : Served request.Answer (World σ) (Entry Rehearsal.Event Empty)}
    (mirrors : Mirrors lock world twin) (allowed : phase.allows lock request)
    (answered : callbacks.serve lock request world = some served) :
    ∃ mirrored : World σ,
      callbacks.quiet.serve lock request twin =
          some { answer := served.answer, world := mirrored, journal := served.journal } ∧
        Mirrors lock served.world mirrored := by
  -- the phase is needed for `acquire`: the worlds agree on this lock and perhaps on no other
  have kept := serve_isHeld answered lock
  cases request with
  | call call =>
      cases call with
      | beginFrame surface =>
          cases answered
          simp only [serve, quiet, mirrors.held, mirrors.driver]
          exact ⟨_, rfl, rfl, mirrors.held⟩
      | _ => cases answered
  | sleep nanoseconds =>
      simp only [serve, Option.map_eq_some_iff] at answered
      obtain ⟨locks, left, rfl⟩ := answered
      simp only [serve, quiet, mirrors.held, mirrors.driver]
      exact ⟨_, rfl, rfl, mirrors.held.trans kept.symm⟩
  | acquire wanted =>
      cases phase with
      | idle =>
          obtain rfl : wanted = lock := allowed
          simp only [serve, Option.map_eq_some_iff, Locks.take_eq] at answered
          obtain ⟨locks, taken, rfl⟩ := answered
          split at taken
          next free =>
            cases taken
            simp only [serve, Locks.take_eq, mirrors.isFree.trans free, if_true]
            exact ⟨_, rfl, mirrors.driver, Locks.isHeld_hold_congr mirrors.held wanted⟩
          next => cases taken
      | _ => exact False.elim allowed
  | free held unwinding =>
      cases answered
      exact ⟨_, rfl, mirrors.driver, Locks.isHeld_free_congr mirrors.held held unwinding⟩
  | log record =>
      cases answered
      exact ⟨_, rfl, mirrors.driver, mirrors.held⟩
  | store | note | query | abort => cases answered

/-- A program that keeps to the order of a session proceeds in the same way whatever was poisoned,
and whatever is poisoned on the way. -/
theorem exists_mirrored {ends : Phase → α → Prop} {program rest : Program Unit Empty α}
    {after twin : World σ} {trace : List (Exchange Unit Empty)}
    {journal : List (Entry Rehearsal.Event Empty)} (obeys : program.Obeys (framing lock) ends phase)
    (inStep : InStep lock phase world) (mirrors : Mirrors lock world twin)
    (reached : (callbacks.environment lock).Reaches program world trace journal rest after) :
    ∃ mirrored,
      (callbacks.quiet.environment lock).Reaches program twin trace journal rest mirrored ∧
        Mirrors lock after mirrored := by
  induction reached generalizing phase twin with
  | here => exact ⟨twin, .here _ _, mirrors⟩
  | step answered _ inductionHypothesis =>
      obtain ⟨allowed, later⟩ := Program.obeys_ask.mp obeys
      obtain ⟨between, replied, still⟩ := mirrors.exists_served allowed answered
      obtain ⟨expected, held⟩ := callbacks.keepsStep_framing lock inStep allowed answered
      obtain ⟨mirrored, reached, same⟩ := inductionHypothesis (later _ expected) held still
      exact ⟨mirrored, .answered replied reached, same⟩

/-- Two runs gave the same result and left the same journal and the same state of the callbacks, and
the lock is free after both or held after both. -/
structure SameRun (lock : DeviceLock)
    (one other : Finished (Except Interruption Unit) (World σ) (Entry Rehearsal.Event Empty)) :
    Prop where
  value : other.value = one.value
  journal : other.journal = one.journal
  driver : other.world.driver = one.world.driver
  free : other.world.locks.isFree lock = one.world.locks.isFree lock

/-- A policy tried on a free lock goes as if nothing had ever been poisoned. -/
theorem exists_sameRun (callbacks : Callbacks σ) (policy : RetryPolicy)
    (free : world.locks.isFree lock = true) {locks : Locks} (also : locks.isFree lock = true) :
    ∃ finished other, callbacks.run policy lock world = some finished ∧
      callbacks.quiet.run policy lock { driver := world.driver, locks } = some other ∧
        SameRun lock finished other := by
  obtain ⟨trace, journal, result, after, reached⟩ := callbacks.exists_done policy free
  have mirrors : Mirrors lock world { driver := world.driver, locks } :=
    ⟨rfl, by simp [Locks.isHeld, free, also]⟩
  obtain ⟨mirrored, again, same⟩ :=
    exists_mirrored begin_framed (inStep_idle free) mirrors reached
  refine ⟨⟨result, after, journal⟩, ⟨result, mirrored, journal⟩, ?_, ?_, ?_⟩
  · exact Environment.run_eq_some_iff.mpr ⟨trace, reached⟩
  · exact Environment.run_eq_some_iff.mpr ⟨trace, again⟩
  · exact ⟨rfl, rfl, same.driver, same.isFree⟩

/-- The locks after a run, once the guard that it may have given is dropped. -/
def left (lock : DeviceLock) (unwinding : Bool)
    (finished : Finished (Except Interruption Unit) (World σ) (Entry Rehearsal.Event Empty)) :
    Locks :=
  match finished.value with
  | .ok () => finished.world.locks.free lock unwinding
  | .error _ => finished.world.locks

/-- Where a begin has asked for something, its phase allows that, and the lock is held as the phase
says. -/
theorem exists_phase {request : Request Unit Empty}
    {resume : request.Answer → Program Unit Empty (Except Interruption Unit)} {after : World σ}
    {trace : List (Exchange Unit Empty)} {journal : List (Entry Rehearsal.Event Empty)}
    (free : world.locks.isFree lock = true)
    (reached : (callbacks.environment lock).Reaches (policy.begin lock ()).run world trace journal
      (.ask request resume) after) :
    ∃ phase : Phase, phase.allows lock request ∧ InStep lock phase after := by
  have framed : (policy.begin lock () : Action Unit Empty Unit).run.Obeys (framing lock) _ .idle :=
    begin_framed
  obtain ⟨obeys, inStep⟩ :=
    framed.of_reaches (callbacks.keepsStep_framing lock) (inStep_idle free) reached
  exact ⟨_, (Program.obeys_ask.mp obeys).1, inStep⟩

/-- After a run the lock is held as the phase says to which the result belongs. -/
theorem inStep_of_run
    {finished : Finished (Except Interruption Unit) (World σ) (Entry Rehearsal.Event Empty)}
    (free : world.locks.isFree lock = true)
    (ran : callbacks.run policy lock world = some finished) :
    InStep lock (.afterBegin finished.value) finished.world := by
  obtain ⟨trace, reached⟩ := Environment.run_eq_some_iff.mp ran
  have framed : (policy.begin lock () : Action Unit Empty Unit).run.Obeys (framing lock) _ .idle :=
    begin_framed
  obtain ⟨obeys, inStep⟩ :=
    framed.of_reaches (callbacks.keepsStep_framing lock) (inStep_idle free) reached
  rw [Program.obeys_done.mp obeys] at inStep
  exact inStep

/-- With the guard dropped that a run may have given, the lock is free. -/
theorem isFree_left
    {finished : Finished (Except Interruption Unit) (World σ) (Entry Rehearsal.Event Empty)}
    (free : world.locks.isFree lock = true)
    (ran : callbacks.run policy lock world = some finished) (unwinding : Bool) :
    (left lock unwinding finished).isFree lock = true := by
  have inStep := inStep_of_run free ran
  cases value : finished.value with
  | ok _ => simp [left, value, Locks.isFree_free_self]
  | error interruption =>
      rw [value] at inStep
      simp [left, value, inStep.isFree rfl]

/-- A mutex is held as long as nobody lets go of it. -/
theorem isHeld_of_reaches {id : Nat} {program rest : Program Unit Empty α} {after : World σ}
    {trace : List (Exchange Unit Empty)} {journal : List (Entry Rehearsal.Event Empty)}
    (asks : program.Asks fun request => ∀ unwinding, request ≠ .free (.mutex id) unwinding)
    (held : world.locks.isHeld (.mutex id) = true)
    (reached : (callbacks.environment (.mutex id)).Reaches program world trace journal rest
      after) :
    after.locks.isHeld (.mutex id) = true := by
  have keeps : (callbacks.environment (.mutex id)).KeepsStep
      (.asking fun request => ∀ unwinding, request ≠ .free (.mutex id) unwinding)
      fun _ world => world.locks.isHeld (.mutex id) = true := by
    intro _ world request served held keeps answered
    refine ⟨trivial, (serve_isHeld answered _).trans ?_⟩
    cases request with
    | acquire wanted =>
        by_cases same : wanted = .mutex id
        · subst same
          simp [Request.onLocks, Locks.isHeld, Locks.isFree_hold_mutex]
        · exact (Locks.isHeld_hold_of_ne fun equal => same equal.symm).trans held
    | free other unwinding =>
        have differs : DeviceLock.mutex id ≠ other := by
          intro same
          subst same
          exact keeps unwinding rfl
        exact (Locks.isHeld_free_of_ne differs unwinding).trans held
    | _ => exact held
  exact (asks.of_reaches keeps held reached).2

/-- A policy is tried on a mutex.  The mutex is held when a frame is begun and free when a wait
starts; it is held as long as the guard of a begun frame lives, and free if there is none.  Nothing
that is poisoned on the way, or was before, changes what comes of this run or of a later one. -/
structure GuardsBegins (callbacks : Callbacks σ) (policy : RetryPolicy) (id : Nat)
    (world : World σ) : Prop where
  held : ∀ {trace journal call resume after},
    (callbacks.environment (.mutex id)).Reaches (policy.begin (.mutex id) ()).run world trace
        journal (.ask (.call call) resume) after →
      after.locks.isHeld (.mutex id) = true
  asleep : ∀ {trace journal nanoseconds resume after},
    (callbacks.environment (.mutex id)).Reaches (policy.begin (.mutex id) ()).run world trace
        journal (.ask (.sleep nanoseconds) resume) after →
      after.locks.isFree (.mutex id) = true
  guarded : ∀ {finished}, callbacks.run policy (.mutex id) world = some finished →
    finished.value = .ok () →
      (∀ {α : Type} {program rest : Program Unit Empty α} {trace journal after},
        program.Asks (fun request => ∀ unwinding, request ≠ .free (.mutex id) unwinding) →
          (callbacks.environment (.mutex id)).Reaches program finished.world trace journal rest
              after →
            after.locks.isHeld (.mutex id) = true) ∧
        ∀ unwinding, (finished.world.locks.free (.mutex id) unwinding).isFree (.mutex id) = true
  freed : ∀ {finished interruption}, callbacks.run policy (.mutex id) world = some finished →
    finished.value = .error interruption → finished.world.locks.isFree (.mutex id) = true
  harmless : ∃ finished, callbacks.run policy (.mutex id) world = some finished ∧
    (∀ {locks : Locks}, locks.isFree (.mutex id) = true →
      ∃ other, callbacks.quiet.run policy (.mutex id) { driver := world.driver, locks } =
          some other ∧ SameRun (.mutex id) finished other) ∧
      ∀ (unwinding : Bool) {τ : Type} (later : Callbacks τ) (again : RetryPolicy) (state : τ),
        ∃ next fresh,
          later.run again (.mutex id)
              { driver := state, locks := left (.mutex id) unwinding finished } = some next ∧
            later.quiet.run again (.mutex id) { driver := state } = some fresh ∧
              SameRun (.mutex id) next fresh

end Callbacks

open Callbacks

theorem begins_are_guarded {callbacks : Callbacks σ} {policy : RetryPolicy} {id : Nat}
    {world : World σ} (free : world.locks.isFree (.mutex id) = true) :
    callbacks.GuardsBegins policy id world := by
  constructor
  · intro trace journal call resume after reached
    obtain ⟨phase, allowed, inStep⟩ := exists_phase free reached
    rw [inStep id rfl]
    exact Phase.holds_of_allows_call allowed
  · intro trace journal nanoseconds resume after reached
    obtain ⟨phase, allowed, inStep⟩ := exists_phase free reached
    cases phase with
    | idle => exact inStep.isFree rfl
    | _ => exact False.elim allowed
  · intro finished ran began
    have inStep := inStep_of_run free ran
    rw [began] at inStep
    exact ⟨fun asks reached => isHeld_of_reaches asks (inStep id rfl) reached,
      fun unwinding => Locks.isFree_free_self ..⟩
  · intro finished interruption ran failed
    have inStep := inStep_of_run free ran
    rw [failed] at inStep
    exact inStep.isFree rfl
  · obtain ⟨finished, other, ran, _, _⟩ := callbacks.exists_sameRun policy free free
    refine ⟨finished, ran, ?_, ?_⟩
    · intro locks also
      obtain ⟨again, other, reran, quietly, same⟩ := callbacks.exists_sameRun policy free also
      obtain rfl := Option.some.inj (reran.symm.trans ran)
      exact ⟨other, quietly, same⟩
    · intro unwinding τ later again state
      -- with the guard dropped the lock is free, and nothing else matters to a later run
      let world : World τ := { driver := state, locks := left (.mutex id) unwinding finished }
      have dropped : world.locks.isFree (.mutex id) = true := isFree_left free ran unwinding
      exact later.exists_sameRun again dropped rfl

/-- The mutex was poisoned before, it is poisoned again during a wait, and then the device
panics. -/
theorem begin_is_guarded_on_poisoned_mutex :
    ({ poisoned := [0] } : Locks).isFree (.mutex 0) = true ∧
      Rehearsal.callbacks.GuardsBegins .standard 0
        { driver :=
            { begins := [.failed .pending, .panicked .outOfRange]
              otherwise := .ok ()
              pauses := [.poison] }
          locks := { poisoned := [0] } } :=
  ⟨rfl, begins_are_guarded rfl⟩

end HardwareDecode
