/-
Module: HardwareDecode.Retry
Purpose: Beginning a frame on a device that may be busy: a bounded number of attempts, with the
  device lock let go while waiting for the next one, so that other users of the device can make
  progress.
Main exports: RetryPolicy, RetryPolicy.ofMaximum, RetryPolicy.verdict, RetryPolicy.begin
-/
import HardwareDecode.Effect.Action

namespace HardwareDecode

/-- How often to attempt a begin, and how long to wait between two attempts. -/
structure RetryPolicy where
  /-- The number of attempts, the first included. -/
  maxAttempts : UInt32
  /-- The wait in nanoseconds. -/
  backoff : Nat
  positive : 0 < maxAttempts := by decide
deriving DecidableEq, Repr

/-- What became of the attempts so far, after the answer to the last of them. -/
inductive Verdict where
  /-- The device was busy and there may be another attempt. -/
  | busy (attempt : UInt32)
  | began (attempts : UInt32)
  | failed (attempts : UInt32) (status : Status)
deriving DecidableEq, Repr

namespace RetryPolicy

/-- Fifty attempts, two milliseconds apart. -/
def standard : RetryPolicy := { maxAttempts := 50, backoff := 2000000 }

instance : Inhabited RetryPolicy := ⟨standard⟩

/-- At most `maximum` attempts, and always at least one. -/
def ofMaximum (maximum : UInt32) (backoff : Nat) : RetryPolicy :=
  if positive : 0 < maximum then { maxAttempts := maximum, backoff, positive }
  else { maxAttempts := 1, backoff }

/-- The verdict after the attempt with a number was answered.  Only a busy device is worth another
attempt, and only while the maximum is not reached. -/
def verdict (policy : RetryPolicy) (attempt : UInt32) : Except Status Unit → Verdict
  | .ok () => .began attempt
  | .error status =>
      if status.isPending ∧ attempt < policy.maxAttempts then .busy attempt
      else .failed attempt status

theorem verdict_eq_busy_iff {policy : RetryPolicy} {attempt other : UInt32}
    {answer : Except Status Unit} :
    policy.verdict attempt answer = .busy other ↔
      answer = .error .pending ∧ attempt < policy.maxAttempts ∧ attempt = other := by
  cases answer with
  | ok value => simp [verdict]
  | error status =>
      by_cases again : status.isPending ∧ attempt < policy.maxAttempts
      · obtain ⟨pending, below⟩ := again
        obtain rfl := status.isPending_iff.mp pending
        simp [verdict, pending, below]
      · simp only [verdict, again, ↓reduceIte, reduceCtorEq, false_iff]
        rintro ⟨pending, below, _⟩
        cases pending
        exact again ⟨rfl, below⟩

/-- The number of an attempt below the maximum does not run over. -/
theorem toNat_next {policy : RetryPolicy} {attempt : UInt32}
    (below : attempt < policy.maxAttempts) : (attempt + 1).toNat = attempt.toNat + 1 := by
  have bound : policy.maxAttempts.toNat < 2 ^ 32 := policy.maxAttempts.toNat_lt
  have less : attempt.toNat < policy.maxAttempts.toNat := UInt32.lt_iff_toNat_lt.mp below
  rw [UInt32.toNat_add]
  exact Nat.mod_eq_of_lt (by simp only [UInt32.toNat_one]; omega)

theorem attempts_left_decrease {policy : RetryPolicy} {attempt : UInt32}
    (below : attempt < policy.maxAttempts) :
    policy.maxAttempts.toNat - (attempt + 1).toNat < policy.maxAttempts.toNat - attempt.toNat := by
  have less : attempt.toNat < policy.maxAttempts.toNat := UInt32.lt_iff_toNat_lt.mp below
  have next : (attempt + 1).toNat = attempt.toNat + 1 := toNat_next below
  omega

variable {S ν : Type}

/-- The error of a begin that failed for good. -/
def failure (attempts : UInt32) (status : Status) : FrameError :=
  if status.isPending then .stillBusy attempts else .driver .beginFrame status

/-- The attempts from number `attempt` on.  The lock is held at the start and after a success; it
is free after a failure, after a panic, and during each wait. -/
def attemptFrom (policy : RetryPolicy) (lock : DeviceLock) (surface : S) (attempt : UInt32) :
    Action S ν Unit := do
  let answer ←
    (Action.call (.beginFrame surface)).onUnwind (Program.request (.free lock true))
  match judged : policy.verdict attempt answer with
  | .busy _ =>
      Action.log (.busy attempt)
      Action.free lock
      Action.sleep policy.backoff
      Action.acquire lock
      policy.attemptFrom lock surface (attempt + 1)
  | .began attempts =>
      if attempts > 1 then Action.log (.beganAfter attempts)
  | .failed attempts status =>
      Action.free lock
      Action.log (.beginFailed status)
      Action.fail (failure attempts status)
termination_by policy.maxAttempts.toNat - attempt.toNat
decreasing_by exact attempts_left_decrease (verdict_eq_busy_iff.mp judged).2.1

/-- Take the lock and begin a frame.  On success the lock stays held. -/
def begin (policy : RetryPolicy) (lock : DeviceLock) (surface : S) : Action S ν Unit := do
  Action.acquire lock
  policy.attemptFrom lock surface 1

end RetryPolicy

end HardwareDecode
