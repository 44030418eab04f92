/-
Module: HardwareDecode.Retry.Callbacks
Purpose: Surroundings in which a retry policy is tried by a caller who supplies how the device
  answers a begin and what happens during a wait.  A rehearsal is such a caller.
Main exports: Callbacks, Callbacks.Rest, Callbacks.environment, Callbacks.run, Rehearsal.callbacks,
  Rehearsal.run_eq
-/
import HardwareDecode.Retry.Rehearsal

namespace HardwareDecode

/-- What happens during a wait, and how the wait ends. -/
structure Callbacks.Rest where
  /-- Another user of the lock panics while holding it. -/
  poisons : Bool := false
  result : Except Panic Unit := .ok ()

/-- What a caller supplies.  Either callback is shown whether the lock is held, not whether it was
poisoned, and has a state of its own. -/
structure Callbacks (σ : Type) where
  begin : Bool → σ → Outcome Unit × σ
  sleep : Nat → Bool → σ → Callbacks.Rest × σ

namespace Callbacks

variable {σ : Type}

/-- Answer what a begin asks for; nothing else is answered.  Nothing answers when a lock is to be
poisoned that someone holds. -/
def serve (callbacks : Callbacks σ) (lock : DeviceLock) :
    (request : Request Unit Empty) → World σ →
      Option (Served request.Answer (World σ) (Entry Rehearsal.Event Empty))
  | .call (.beginFrame ()), world =>
      let held := world.locks.isHeld lock
      let (answer, driver) := callbacks.begin held world.driver
      some { answer, world := { world with driver }, journal := [.event (.begin held)] }
  | .sleep nanoseconds, world =>
      let held := world.locks.isHeld lock
      let (rest, driver) := callbacks.sleep nanoseconds held world.driver
      let left := if rest.poisons then world.locks.poison lock else some world.locks
      left.map fun locks =>
        { answer := rest.result
          world := { driver, locks }
          journal := [.event (.sleep nanoseconds held)] }
  | .acquire wanted, world =>
      (world.locks.take wanted).map fun locks => { answer := (), world := { world with locks } }
  | .free held unwinding, world =>
      some { answer := (), world := { world with locks := world.locks.free held unwinding } }
  | .log record, world => some { answer := (), world, journal := [.log record] }
  | _, _ => none

/-- The surroundings of a caller whose callbacks watch a lock. -/
def environment (callbacks : Callbacks σ) (lock : DeviceLock) :
    Environment Unit Empty (World σ) (Entry Rehearsal.Event Empty) :=
  ⟨callbacks.serve lock⟩

/-- Try a policy on a lock. -/
def run (callbacks : Callbacks σ) (policy : RetryPolicy) (lock : DeviceLock) (world : World σ) :
    Option (Finished (Except Interruption Unit) (World σ) (Entry Rehearsal.Event Empty)) :=
  (callbacks.environment lock).run (policy.begin lock ()).run world

end Callbacks

namespace Rehearsal

/-- A rehearsal with these locks. -/
def ofWorld (world : World Rehearsal) : Rehearsal :=
  { world.driver with locks := world.locks }

/-- The callbacks of a rehearsal, whose state is the rest of the rehearsal. -/
def callbacks : Callbacks Rehearsal where
  begin _ rehearsal :=
    match rehearsal.begins with
    | [] => (rehearsal.otherwise, rehearsal)
    | answer :: begins => (answer, { rehearsal with begins })
  sleep _ _ rehearsal :=
    match rehearsal.pauses with
    | [] => ({}, rehearsal)
    | pause :: pauses =>
        let rehearsal := { rehearsal with pauses }
        match pause with
        | .quiet => ({}, rehearsal)
        | .poison => ({ poisons := true }, rehearsal)
        | .panic text => ({ result := .error (.message text) }, rehearsal)

theorem serve_ofWorld (lock : DeviceLock) (request : Request Unit Empty)
    (world : World Rehearsal) :
    Rehearsal.serve lock request (ofWorld world) =
      (callbacks.serve lock request world).map fun served =>
        { answer := served.answer
          world := ofWorld served.world
          journal := served.journal } := by
  obtain ⟨⟨begins, otherwise, pauses, before⟩, locks⟩ := world
  cases request with
  | call call =>
      cases call with
      | beginFrame surface => cases begins <;> rfl
      | _ => rfl
  | sleep nanoseconds =>
      rcases pauses with _ | ⟨_ | _ | text, pauses⟩
      · rfl
      · rfl
      · simp only [serve, sleep, Callbacks.serve, callbacks, ofWorld, if_true, Option.map_map]
        rfl
      · rfl
  | acquire wanted =>
      simp only [serve, Callbacks.serve, ofWorld, Option.map_map]
      rfl
  | _ => rfl

/-- A policy is rehearsed as it is tried with the callbacks of the rehearsal. -/
theorem run_eq (policy : RetryPolicy) (lock : DeviceLock) (rehearsal : Rehearsal) :
    run policy lock rehearsal =
      (callbacks.run policy lock { driver := rehearsal, locks := rehearsal.locks }).map
        fun finished =>
          { value := finished.value
            world := ofWorld finished.world
            journal := finished.journal } :=
  Environment.run_map ofWorld (serve_ofWorld lock) (policy.begin lock ()).run
    { driver := rehearsal, locks := rehearsal.locks }

end Rehearsal

end HardwareDecode
