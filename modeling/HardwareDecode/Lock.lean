/-
Module: HardwareDecode.Lock
Purpose: Mutual exclusion over a device shared by several users: which locks are held, which were
  poisoned by a holder that panicked, and what taking and freeing them does.  Poison is recorded
  and otherwise ignored, because the lock guards no data that a panic could leave broken.
Main exports: DeviceLock, Locks, Locks.attempt, Locks.isFree, Locks.take, Locks.free, Locks.poison
-/

namespace HardwareDecode

/-- The lock of a device: none, for a driver that serialises its calls itself, or a mutex, which
every user of the device knows by the same number. -/
inductive DeviceLock where
  | absent
  | mutex (id : Nat)
deriving DecidableEq, Repr, Inhabited

/-- Whether there is nothing to hold. -/
def DeviceLock.isAbsent : DeviceLock → Bool
  | absent => true
  | mutex _ => false

/-- The state of all mutexes. -/
structure Locks where
  held : List Nat := []
  poisoned : List Nat := []
deriving DecidableEq, Repr, Inhabited

/-- The answer of a mutex to a holder who does not want to wait. -/
inductive Attempt where
  /-- The lock was free. -/
  | acquired
  /-- The lock was free, and an earlier holder had panicked. -/
  | poisoned
  /-- Someone else holds the lock. -/
  | wouldBlock
deriving DecidableEq, Repr, Inhabited

namespace Locks

/-- Ask for a lock without waiting.  An absent lock is always had. -/
def attempt (locks : Locks) : DeviceLock → Attempt
  | .absent => .acquired
  | .mutex id =>
      if id ∈ locks.held then .wouldBlock
      else if id ∈ locks.poisoned then .poisoned
      else .acquired

/-- Whether a lock can be had at once. -/
def isFree (locks : Locks) (lock : DeviceLock) : Bool :=
  match locks.attempt lock with
  | .acquired | .poisoned => true
  | .wouldBlock => false

/-- Whether someone holds the lock. -/
def isHeld (locks : Locks) (lock : DeviceLock) : Bool := !locks.isFree lock

/-- Hold a lock.  Nothing is held of an absent one. -/
def hold (locks : Locks) : DeviceLock → Locks
  | .absent => locks
  | .mutex id => { locks with held := id :: locks.held }

/-- Take a lock if it can be had, poisoned or not. -/
def take (locks : Locks) (lock : DeviceLock) : Option Locks :=
  match locks.attempt lock with
  | .acquired | .poisoned => some (locks.hold lock)
  | .wouldBlock => none

/-- Free a lock.  A holder that is `unwinding` from a panic poisons it. -/
def free (locks : Locks) (lock : DeviceLock) (unwinding : Bool) : Locks :=
  match lock with
  | .absent => locks
  | .mutex id =>
      { held := locks.held.filter (· ≠ id)
        poisoned := if unwinding then id :: locks.poisoned else locks.poisoned }

/-- Take a lock, panic, and free it while unwinding. -/
def poison (locks : Locks) (lock : DeviceLock) : Option Locks :=
  (locks.take lock).map fun taken => taken.free lock true

@[simp] theorem isFree_absent (locks : Locks) : locks.isFree .absent = true := rfl

theorem isFree_mutex (locks : Locks) (id : Nat) :
    locks.isFree (.mutex id) = !decide (id ∈ locks.held) := by
  by_cases member : id ∈ locks.held
  · simp [isFree, attempt, member]
  · by_cases spoiled : id ∈ locks.poisoned <;> simp [isFree, attempt, member, spoiled]

theorem take_eq (locks : Locks) (lock : DeviceLock) :
    locks.take lock = if locks.isFree lock then some (locks.hold lock) else none := by
  cases answer : locks.attempt lock <;> simp [take, isFree, answer]

theorem isFree_free_self (locks : Locks) (lock : DeviceLock) (unwinding : Bool) :
    (locks.free lock unwinding).isFree lock = true := by
  cases lock with
  | absent => rfl
  | mutex id => simp [isFree_mutex, free]

theorem isFree_hold_mutex (locks : Locks) (id : Nat) :
    (locks.hold (.mutex id)).isFree (.mutex id) = false := by
  simp [isFree_mutex, hold]

end Locks

end HardwareDecode
