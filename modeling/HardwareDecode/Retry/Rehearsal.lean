/-
Module: HardwareDecode.Retry.Rehearsal
Purpose: Surroundings in which a retry policy can be tried without a device: begins are answered
  from a queue, and what happens during each wait is laid down beforehand.
Main exports: Rehearsal, Rehearsal.Pause, Rehearsal.Event, Rehearsal.environment
-/
import HardwareDecode.Backend
import HardwareDecode.Retry

namespace HardwareDecode.Rehearsal

/-- What happens during a wait. -/
inductive Pause where
  | quiet
  /-- Another user of the lock panics while holding it. -/
  | poison
  /-- The wait itself panics. -/
  | panic (text : String)
deriving DecidableEq, Repr, Inhabited

/-- What was seen, and whether the lock was held. -/
inductive Event where
  | begin (locked : Bool)
  | sleep (nanoseconds : Nat) (locked : Bool)
deriving DecidableEq, Repr, Inhabited

end Rehearsal

/-- The answers still to be given, and the locks. -/
structure Rehearsal where
  /-- The answers to the next begins. -/
  begins : List (Outcome Unit)
  /-- The answer to every begin after those. -/
  otherwise : Outcome Unit
  /-- What happens during the next waits; later ones are quiet. -/
  pauses : List Rehearsal.Pause := []
  locks : Locks := {}

namespace Rehearsal

/-- Answer a begin. -/
def begin (lock : DeviceLock) (rehearsal : Rehearsal) :
    Served (Outcome Unit) Rehearsal (Entry Event Empty) :=
  let journal := [.event (.begin (rehearsal.locks.isHeld lock))]
  match rehearsal.begins with
  | [] => { answer := rehearsal.otherwise, world := rehearsal, journal }
  | answer :: begins => { answer, world := { rehearsal with begins }, journal }

/-- Spend a wait.  Nothing answers when a lock is to be poisoned that someone holds. -/
def sleep (lock : DeviceLock) (nanoseconds : Nat) (rehearsal : Rehearsal) :
    Option (Served (Except Panic Unit) Rehearsal (Entry Event Empty)) :=
  let journal := [.event (.sleep nanoseconds (rehearsal.locks.isHeld lock))]
  match rehearsal.pauses with
  | [] => some { answer := .ok (), world := rehearsal, journal }
  | pause :: pauses =>
      let rehearsal := { rehearsal with pauses }
      match pause with
      | .quiet => some { answer := .ok (), world := rehearsal, journal }
      | .poison =>
          (rehearsal.locks.poison lock).map fun locks =>
            { answer := .ok (), world := { rehearsal with locks }, journal }
      | .panic text => some { answer := .error (.message text), world := rehearsal, journal }

/-- Answer what a begin asks for; nothing else is answered. -/
def serve (lock : DeviceLock) :
    (request : Request Unit Empty) → Rehearsal →
      Option (Served request.Answer Rehearsal (Entry Event Empty))
  | .call (.beginFrame ()), rehearsal => some (rehearsal.begin lock)
  | .sleep nanoseconds, rehearsal => rehearsal.sleep lock nanoseconds
  | .acquire wanted, rehearsal =>
      (rehearsal.locks.take wanted).map fun locks =>
        { answer := (), world := { rehearsal with locks } }
  | .free held unwinding, rehearsal =>
      some
        { answer := ()
          world := { rehearsal with locks := rehearsal.locks.free held unwinding } }
  | .log record, rehearsal => some { answer := (), world := rehearsal, journal := [.log record] }
  | _, _ => none

/-- The surroundings of a rehearsal that watches a lock. -/
def environment (lock : DeviceLock) : Environment Unit Empty Rehearsal (Entry Event Empty) :=
  ⟨serve lock⟩

/-- Try a policy on a lock. -/
def run (policy : RetryPolicy) (lock : DeviceLock) (rehearsal : Rehearsal) :
    Option (Finished (Except Interruption Unit) Rehearsal (Entry Event Empty)) :=
  (environment lock).run (policy.begin lock ()).run rehearsal

end Rehearsal

end HardwareDecode
