/-
Module: HardwareDecode.Proofs.BoundedRetry
Purpose: How often a frame is begun, and what comes of it.  A device that is busy is tried again up
  to the maximum of the policy, with one wait between two attempts, and every other answer is the
  last one.  The messages number the attempts as they are counted.
Main exports: Callbacks.answering, busyFor, RetryPolicy.tried, Callbacks.run_answering,
  RetryPolicy.Bounds, attempts_are_bounded
-/
import HardwareDecode.Proofs.BusyTransparency
import HardwareDecode.Proofs.GuardedBegin
import Mathlib.Data.ENat.Lattice

namespace HardwareDecode

variable {σ : Type}

/-- Who holds a lock sees it held, if there is one. -/
theorem Locks.isHeld_hold_self (locks : Locks) (lock : DeviceLock) :
    (locks.hold lock).isHeld lock = !lock.isAbsent := by
  cases lock with
  | absent => rfl
  | mutex id => simp [isHeld, isFree_hold_mutex, DeviceLock.isAbsent]

/-! ### A sequence of answers -/

/-- What a caller is told by a device that does not panic. -/
def Outcome.ofAnswer : Except Status Unit → Outcome Unit
  | .ok () => .ok ()
  | .error status => .failed status

/-- A device with these answers to its begins, which are counted.  The lock may be poisoned during
the wait behind any of them. -/
def Callbacks.answering (answers : Nat → Except Status Unit) (poisons : Nat → Bool) :
    Callbacks Nat where
  begin _ count := (.ofAnswer (answers count), count + 1)
  sleep _ _ count := ({ poisons := poisons count }, count)

/-- For how many begins the device is busy at first. -/
noncomputable def busyFor (answers : Nat → Except Status Unit) : ℕ∞ :=
  ⨅ (count : Nat) (_ : answers count ≠ .error .pending), (count : ℕ∞)

theorem le_busyFor_iff {answers : Nat → Except Status Unit} {count : Nat} :
    (count : ℕ∞) ≤ busyFor answers ↔ ∀ earlier < count, answers earlier = .error .pending := by
  simp only [busyFor, le_iInf_iff, Nat.cast_le]
  constructor
  · intro below earlier less
    by_contra settled
    exact absurd (below earlier settled) (Nat.not_le_of_lt less)
  · intro busy other settled
    by_contra below
    exact settled (busy other (Nat.lt_of_not_le below))

theorem busyFor_eq_iff {answers : Nat → Except Status Unit} {count : Nat} :
    busyFor answers = count ↔
      (∀ earlier < count, answers earlier = .error .pending) ∧ answers count ≠ .error .pending := by
  rw [eq_comm, le_antisymm_iff, le_busyFor_iff]
  constructor
  · intro both
    obtain ⟨busy, most⟩ := both
    refine ⟨busy, fun again => ?_⟩
    have more : ((count + 1 : Nat) : ℕ∞) ≤ busyFor answers := by
      apply le_busyFor_iff.mpr
      intro earlier less
      rcases Nat.lt_succ_iff_lt_or_eq.mp less with before | same
      · exact busy earlier before
      · rw [same, again]
    have absurd : count + 1 ≤ count := Nat.cast_le.mp (more.trans most)
    omega
  · intro both
    exact ⟨both.1, iInf₂_le count both.2⟩

namespace RetryPolicy

/-- What is seen of an attempt that finds the device busy, and of the wait behind it. -/
def round (policy : RetryPolicy) (lock : DeviceLock) (number : Nat) :
    List (Entry Rehearsal.Event Empty) :=
  [.event (.begin !lock.isAbsent), .log (.busy (.ofNat number)),
    .event (.sleep policy.backoff false)]

/-- The message about the last attempt, if there is one. -/
def lastWord (attempts : Nat) : Except Status Unit → List LogRecord
  | .ok () => if 1 < attempts then [.beganAfter (.ofNat attempts)] else []
  | .error status => [.beginFailed status]

/-- What is seen of so many attempts, of which the last got this answer and the others found the
device busy. -/
def tried (policy : RetryPolicy) (lock : DeviceLock) (attempts : Nat)
    (answer : Except Status Unit) : List (Entry Rehearsal.Event Empty) :=
  (List.range' 1 (attempts - 1)).flatMap (policy.round lock) ++
    .event (.begin !lock.isAbsent) :: (lastWord attempts answer).map .log

/-- What comes of the last attempt. -/
def concluded (attempts : Nat) : Except Status Unit → Except Interruption Unit
  | .ok () => .ok ()
  | .error status => .error (.failure (failure (.ofNat attempts) status))

end RetryPolicy

namespace Callbacks

variable {policy : RetryPolicy} {lock : DeviceLock} {answers : Nat → Except Status Unit}
  {poisons : Nat → Bool} {locks : Locks} {count : Nat}

/-- The device has answered so many begins, and the lock is held. -/
def attempting (locks : Locks) (lock : DeviceLock) (count : Nat) : World Nat where
  driver := count
  locks := locks.hold lock

/-- A wait leaves the lock free. -/
theorem serve_sleep (free : locks.isFree lock = true) :
    ∃ after : Locks, after.isFree lock = true ∧
      ((answering answers poisons).environment lock).serve (.sleep policy.backoff)
          { driver := count, locks } =
        some
          { answer := .ok ()
            world := { driver := count, locks := after }
            journal := [.event (.sleep policy.backoff false)] } := by
  have unheld : locks.isHeld lock = false := by simp [Locks.isHeld, free]
  by_cases poisoned : poisons count
  · obtain ⟨after, left⟩ := Locks.exists_poison free
    have still := Locks.isHeld_poison left lock
    rw [unheld] at still
    refine ⟨after, by simpa [Locks.isHeld] using still, ?_⟩
    simp [environment, serve, answering, poisoned, left, unheld]
  · refine ⟨locks, free, ?_⟩
    simp [environment, serve, answering, poisoned, unheld]

theorem serve_begin :
    ((answering answers poisons).environment lock).serve (.call (.beginFrame ()))
        (attempting locks lock count) =
      some
        { answer := .ofAnswer (answers count)
          world := attempting locks lock (count + 1)
          journal := [.event (.begin !lock.isAbsent)] } := by
  simp [environment, serve, answering, attempting, Locks.isHeld_hold_self]

theorem serve_log (callbacks : Callbacks σ) (record : LogRecord) (world : World σ) :
    (callbacks.environment lock).serve (.log record) world =
      some { answer := (), world, journal := [.log record] } := rfl

theorem serve_free (callbacks : Callbacks σ) (unwinding : Bool) (world : World σ) :
    (callbacks.environment lock).serve (.free lock unwinding) world =
      some
        { answer := ()
          world := { world with locks := world.locks.free lock unwinding } } := rfl

/-- An attempt that finds the device busy leads to the next one. -/
theorem reaches_round (free : locks.isFree lock = true) (busy : answers count = .error .pending)
    (below : count + 1 < policy.maxAttempts.toNat) :
    ∃ after : Locks, after.isFree lock = true ∧
      ((answering answers poisons).environment lock).Reaches
        (policy.attemptFrom lock () (.ofNat (count + 1))).run (attempting locks lock count)
        (policy.busyRound lock () (count + 1)) (policy.round lock (count + 1))
        (policy.attemptFrom lock () (.ofNat (count + 1 + 1))).run
        (attempting after lock (count + 1)) := by
  have size : count + 1 < UInt32.size := Nat.lt_trans below policy.maxAttempts.toNat_lt
  have again : Status.pending.isPending ∧ UInt32.ofNat (count + 1) < policy.maxAttempts := by
    refine ⟨rfl, UInt32.lt_iff_toNat_lt.mpr ?_⟩
    rwa [UInt32.toNat_ofNat_of_lt' size]
  have next : UInt32.ofNat (count + 1) + 1 = UInt32.ofNat (count + 1 + 1) :=
    (UInt32.ofNat_add (count + 1) 1).symm
  have begun : ((answering answers poisons).environment lock).serve (.call (.beginFrame ()))
      (attempting locks lock count) = _ := serve_begin
  rw [busy] at begun
  obtain ⟨after, still, slept⟩ : ∃ after : Locks, after.isFree lock = true ∧
      ((answering answers poisons).environment lock).serve (.sleep policy.backoff)
        { driver := count + 1, locks := (locks.hold lock).free lock false } = _ := by
    rw [Locks.free_hold free]
    exact serve_sleep free
  have taken : ((answering answers poisons).environment lock).serve (.acquire lock)
      { driver := count + 1, locks := after } =
        some { answer := (), world := attempting after lock (count + 1) } := by
    simp [environment, serve, Locks.take_eq, still, attempting]
  refine ⟨after, still, ?_⟩
  rw [attemptFrom_run, ← next, RetryPolicy.busyRound, RetryPolicy.round, Program.request_bind]
  refine Environment.Reaches.answered begun ?_
  rw [Outcome.ofAnswer, RetryPolicy.proceed, if_pos again]
  refine Environment.Reaches.answered (serve_log ..) ?_
  refine Environment.Reaches.answered (serve_free ..) ?_
  refine Environment.Reaches.answered slept ?_
  refine Environment.Reaches.answered taken ?_
  exact .here _ _

/-- As long as the device is busy and attempts are left, one attempt leads to the next. -/
theorem reaches_rounds (poisons : Nat → Bool) (free : locks.isFree lock = true) {busy : Nat}
    (all : ∀ earlier < busy, answers earlier = .error .pending)
    (below : busy < policy.maxAttempts.toNat) :
    ∃ after : Locks, after.isFree lock = true ∧
      ((answering answers poisons).environment lock).Reaches
        (policy.attemptFrom lock () 1).run (attempting locks lock 0)
        ((List.range' 1 busy).flatMap (policy.busyRound lock ()))
        ((List.range' 1 busy).flatMap (policy.round lock))
        (policy.attemptFrom lock () (.ofNat (busy + 1))).run (attempting after lock busy) := by
  -- rounds are added at the end, since each wait decides which locks the next attempt finds
  induction busy with
  | zero => exact ⟨locks, free, .here _ _⟩
  | succ busy inductionHypothesis =>
      obtain ⟨between, still, reached⟩ := inductionHypothesis
        (fun earlier less => all earlier (Nat.lt_succ_of_lt less)) (Nat.lt_of_succ_lt below)
      obtain ⟨after, free, again⟩ := reaches_round still (all busy (Nat.lt_succ_self busy)) below
      refine ⟨after, free, ?_⟩
      have whole := reached.trans again
      simp only [List.range'_1_concat, List.flatMap_append, List.flatMap_singleton]
      rwa [Nat.add_comm 1 busy]

/-- An answer that is not worth another attempt ends them all. -/
theorem reaches_conclusion (callbacks : Callbacks σ) (world : World σ) {attempts : Nat}
    (size : attempts < UInt32.size) {answer : Except Status Unit}
    (final : answer = .error .pending → policy.maxAttempts.toNat ≤ attempts) :
    ∃ trace after,
      (callbacks.environment lock).Reaches
        (policy.proceed lock () (.ofNat attempts) (.ofAnswer answer)) world trace
        ((RetryPolicy.lastWord attempts answer).map .log)
        (.done (RetryPolicy.concluded attempts answer)) after := by
  have number : (UInt32.ofNat attempts).toNat = attempts := UInt32.toNat_ofNat_of_lt' size
  cases answer with
  | ok _ =>
      have several : UInt32.ofNat attempts > 1 ↔ 1 < attempts := by
        rw [gt_iff_lt, UInt32.lt_iff_toNat_lt, number]
        rfl
      rw [Outcome.ofAnswer, RetryPolicy.proceed, RetryPolicy.lastWord]
      by_cases more : 1 < attempts
      · rw [if_pos (several.mpr more), if_pos more]
        exact ⟨_, _, .answered (serve_log ..) (.here _ _)⟩
      · rw [if_neg (fun many => more (several.mp many)), if_neg more]
        exact ⟨_, _, .here _ _⟩
  | error status =>
      have last : ¬(status.isPending ∧ UInt32.ofNat attempts < policy.maxAttempts) := by
        intro again
        obtain ⟨pending, below⟩ := again
        rw [UInt32.lt_iff_toNat_lt, number] at below
        exact Nat.not_le_of_lt below (final (congrArg _ (status.isPending_iff.mp pending)))
      rw [Outcome.ofAnswer, RetryPolicy.proceed, if_neg last]
      exact ⟨_, _, .answered (serve_free ..) (.answered (serve_log ..) (.here _ _))⟩

/-- A policy whose device is busy for a while makes one attempt more, if it is worth another or
none are left. -/
theorem run_answering (free : locks.isFree lock = true) {busy : Nat}
    (all : ∀ earlier < busy, answers earlier = .error .pending)
    (below : busy < policy.maxAttempts.toNat)
    (final : answers busy = .error .pending → policy.maxAttempts.toNat ≤ busy + 1) :
    ∃ after, (answering answers poisons).run policy lock { driver := 0, locks } =
      some
        { value := RetryPolicy.concluded (busy + 1) (answers busy)
          world := after
          journal := policy.tried lock (busy + 1) (answers busy) } := by
  have size : busy + 1 < UInt32.size := Nat.lt_of_le_of_lt below policy.maxAttempts.toNat_lt
  have taken : ((answering answers poisons).environment lock).serve (.acquire lock)
      { driver := 0, locks } = some { answer := (), world := attempting locks lock 0 } := by
    simp [environment, serve, Locks.take_eq, free, attempting]
  obtain ⟨between, still, reached⟩ := reaches_rounds poisons free all below
  have begun : ((answering answers poisons).environment lock).serve (.call (.beginFrame ()))
      (attempting between lock busy) = _ := serve_begin
  obtain ⟨trace, after, ended⟩ := reaches_conclusion (answering answers poisons)
    (attempting between lock (busy + 1)) size final
  rw [attemptFrom_run policy lock () (.ofNat (busy + 1)), Program.request_bind] at reached
  have started : ((answering answers poisons).environment lock).Reaches
      (policy.begin lock ()).run { driver := 0, locks } [⟨.acquire lock, ()⟩] []
      (policy.attemptFrom lock () 1).run (attempting locks lock 0) :=
    .answered taken (.here _ _)
  have whole := started.trans (reached.trans (.answered begun ended))
  exact ⟨after, Environment.run_eq_some_iff.mpr ⟨_, whole⟩⟩

end Callbacks

/-! ### What is seen of all attempts -/

/-- The event in an entry, if it is one. -/
def Entry.event? {ο ν : Type} : Entry ο ν → Option ο
  | .event seen => some seen
  | _ => none

/-- The record in an entry, if it is one. -/
def Entry.record? {ο ν : Type} : Entry ο ν → Option LogRecord
  | .log record => some record
  | _ => none

namespace RetryPolicy

variable {policy : RetryPolicy} {lock : DeviceLock} {answers : Nat → Except Status Unit}

theorem events_rounds (policy : RetryPolicy) (lock : DeviceLock) (number busy : Nat) :
    ((List.range' number busy).flatMap (policy.round lock)).filterMap Entry.event? ++
        [.begin !lock.isAbsent] =
      (List.replicate (busy + 1) (.begin !lock.isAbsent)).intersperse
        (.sleep policy.backoff false) := by
  induction busy generalizing number with
  | zero => rfl
  | succ busy inductionHypothesis =>
      rw [List.range'_succ, List.flatMap_cons, List.filterMap_append, List.append_assoc,
        inductionHypothesis]
      rfl

theorem events_tried (policy : RetryPolicy) (lock : DeviceLock) (busy : Nat)
    (answer : Except Status Unit) :
    (policy.tried lock (busy + 1) answer).filterMap Entry.event? =
      (List.replicate (busy + 1) (.begin !lock.isAbsent)).intersperse
        (.sleep policy.backoff false) := by
  have silent : ((lastWord (busy + 1) answer).map Entry.log).filterMap
      (Entry.event? : Entry Rehearsal.Event Empty → _) = [] := by
    simp [List.filterMap_map, Function.comp_def, Entry.event?]
  rw [← events_rounds policy lock 1 busy, tried, List.filterMap_append, List.filterMap_cons, silent]
  rfl

theorem records_rounds (policy : RetryPolicy) (lock : DeviceLock) (numbers : List Nat) :
    (numbers.flatMap (policy.round lock)).filterMap Entry.record? =
      numbers.map fun number => .busy (.ofNat number) := by
  induction numbers with
  | nil => rfl
  | cons number numbers inductionHypothesis =>
      rw [List.flatMap_cons, List.filterMap_append, inductionHypothesis]
      rfl

theorem records_tried (policy : RetryPolicy) (lock : DeviceLock) (busy : Nat)
    (answer : Except Status Unit) :
    (policy.tried lock (busy + 1) answer).filterMap Entry.record? =
      (List.range' 1 busy).map (fun number => .busy (.ofNat number)) ++
        lastWord (busy + 1) answer := by
  have said : ((lastWord (busy + 1) answer).map Entry.log).filterMap
      (Entry.record? : Entry Rehearsal.Event Empty → _) = lastWord (busy + 1) answer := by
    simp [List.filterMap_map, Function.comp_def, Entry.record?]
  rw [tried, List.filterMap_append, List.filterMap_cons, said, records_rounds]
  rfl

/-- The message about the last attempt. -/
def lastMessage (attempts : Nat) : Except Status Unit → List (LogLevel × String)
  | .ok () =>
      if 1 < attempts then [(.debug, "Began frame after " ++ toString attempts ++ " attempts")]
      else []
  | .error status => [(.error, "Failed to begin frame: " ++ status.text)]

theorem message_lastWord {attempts : Nat} (size : attempts < UInt32.size)
    (answer : Except Status Unit) :
    (lastWord attempts answer).map LogRecord.message = lastMessage attempts answer := by
  cases answer with
  | error status => rfl
  | ok _ =>
      simp only [lastWord, lastMessage]
      split
      · rw [List.map_singleton, LogRecord.message_beganAfter size]
      · rfl

theorem messages_tried (policy : RetryPolicy) (lock : DeviceLock) {busy : Nat}
    (size : busy + 1 < UInt32.size) (answer : Except Status Unit) :
    ((policy.tried lock (busy + 1) answer).filterMap Entry.record?).map LogRecord.message =
      (List.range' 1 busy).map (fun number =>
          (.trace, "Decoder busy on attempt " ++ toString number ++ ", retrying")) ++
        lastMessage (busy + 1) answer := by
  rw [records_tried, List.map_append, message_lastWord size, messages_busy (by omega)]

/-! ### The bounds -/

/-- What a caller knows of the attempts to begin a frame: how often the device was asked and the
waits in between, what came of it, and the messages. -/
structure Bounds (policy : RetryPolicy) (lock : DeviceLock) (answers : Nat → Except Status Unit)
    (attempts : Nat)
    (finished : Finished (Except Interruption Unit) (World Nat) (Entry Rehearsal.Event Empty)) :
    Prop where
  counted : (attempts : ℕ∞) = min (busyFor answers + 1) policy.maxAttempts.toNat
  events : finished.journal.filterMap Entry.event? =
    (List.replicate attempts (.begin !lock.isAbsent)).intersperse (.sleep policy.backoff false)
  began : finished.value = .ok () ↔
    ∃ busy : Nat, busyFor answers = busy ∧ busy < policy.maxAttempts.toNat ∧ answers busy = .ok ()
  failed : ∀ status, finished.value = .error (.failure (.driver .beginFrame status)) ↔
    ∃ busy : Nat, busyFor answers = busy ∧ busy < policy.maxAttempts.toNat ∧
      answers busy = .error status
  stillBusy : ∀ made, finished.value = .error (.failure (.stillBusy made)) ↔
    made = policy.maxAttempts ∧ (policy.maxAttempts.toNat : ℕ∞) ≤ busyFor answers
  messages : (finished.journal.filterMap Entry.record?).map LogRecord.message =
    (List.range' 1 (attempts - 1)).map (fun number =>
        (.trace, "Decoder busy on attempt " ++ toString number ++ ", retrying")) ++
      lastMessage attempts (answers (attempts - 1))

/-- If the device is busy for fewer attempts than there are, the answer behind those is the last. -/
theorem bounds_of_settled {busy : Nat} (short : busyFor answers = busy)
    (below : busy < policy.maxAttempts.toNat) (world : World Nat) :
    policy.Bounds lock answers (busy + 1)
      { value := concluded (busy + 1) (answers busy)
        world
        journal := policy.tried lock (busy + 1) (answers busy) } := by
  have final {status : Status} (answer : answers busy = .error status) :
      status.isPending = false := by
    apply Bool.eq_false_iff.mpr
    intro pending
    rw [status.isPending_iff.mp pending] at answer
    exact (busyFor_eq_iff.mp short).2 answer
  -- the device is busy at first for just one number of begins
  have only {property : Nat → Prop} :
      (∃ count : Nat, busyFor answers = count ∧ count < policy.maxAttempts.toNat ∧
        property count) ↔ property busy := by
    constructor
    · intro found
      obtain ⟨count, same, _, holds⟩ := found
      have equal : busy = count := Nat.cast_injective (short.symm.trans same)
      rwa [equal]
    · intro holds
      exact ⟨busy, short, below, holds⟩
  constructor
  · rw [short, min_eq_left (by exact_mod_cast below), Nat.cast_add, Nat.cast_one]
  · exact policy.events_tried lock busy _
  · rw [only]
    cases answers busy <;> simp [concluded]
  · intro status
    rw [only]
    cases answer : answers busy with
    | ok _ => simp [concluded]
    | error given => simp [concluded, failure, final answer]
  · intro made
    have fewer : ¬(policy.maxAttempts.toNat : ℕ∞) ≤ busyFor answers := by
      rw [short, Nat.cast_le]
      exact Nat.not_le_of_lt below
    cases answer : answers busy with
    | ok _ => simp [concluded, fewer]
    | error given => simp [concluded, failure, final answer, fewer]
  · exact policy.messages_tried lock (Nat.lt_of_le_of_lt below policy.maxAttempts.toNat_lt) _

/-- If the device stays busy, the last attempt finds it so. -/
theorem bounds_of_exhausted (long : (policy.maxAttempts.toNat : ℕ∞) ≤ busyFor answers) {busy : Nat}
    (last : policy.maxAttempts.toNat = busy + 1) (world : World Nat) :
    policy.Bounds lock answers (busy + 1)
      { value := concluded (busy + 1) (answers busy)
        world
        journal := policy.tried lock (busy + 1) (answers busy) } := by
  have pending : answers busy = .error .pending := le_busyFor_iff.mp long busy (by omega)
  have none {property : Nat → Prop} :
      ¬∃ count : Nat, busyFor answers = count ∧ count < policy.maxAttempts.toNat ∧
        property count := by
    intro found
    obtain ⟨count, same, fewer, _⟩ := found
    rw [same, Nat.cast_le] at long
    exact Nat.not_le_of_lt fewer long
  have gaveUp : concluded (busy + 1) (answers busy) =
      .error (.failure (.stillBusy policy.maxAttempts)) := by
    rw [pending, ← last, concluded, UInt32.ofNat_toNat]
    rfl
  constructor
  · rw [← last, min_eq_right (long.trans le_self_add)]
  · exact policy.events_tried lock busy _
  · simp [none, gaveUp]
  · intro status
    simp [none, gaveUp]
  · intro made
    simp [gaveUp, long, eq_comm]
  · exact policy.messages_tried lock (last ▸ policy.maxAttempts.toNat_lt) _

end RetryPolicy

theorem attempts_are_bounded (policy : RetryPolicy) {lock : DeviceLock}
    (answers : Nat → Except Status Unit) (poisons : Nat → Bool) {locks : Locks}
    (free : locks.isFree lock = true) :
    ∃ attempts finished,
      (Callbacks.answering answers poisons).run policy lock { driver := 0, locks } =
          some finished ∧
        policy.Bounds lock answers attempts finished := by
  by_cases long : (policy.maxAttempts.toNat : ℕ∞) ≤ busyFor answers
  · have positive : 0 < policy.maxAttempts.toNat := UInt32.lt_iff_toNat_lt.mp policy.positive
    obtain ⟨busy, last⟩ := Nat.exists_eq_add_one.mpr positive
    have all := le_busyFor_iff.mp long
    obtain ⟨after, ran⟩ := Callbacks.run_answering free
      (fun earlier less => all earlier (by omega)) (by omega) (fun _ => last.le)
    exact ⟨busy + 1, _, ran, RetryPolicy.bounds_of_exhausted long last after⟩
  · have fewer := lt_of_not_ge long
    obtain ⟨busy, short⟩ := ENat.ne_top_iff_exists.mp (ne_top_of_lt fewer)
    rw [← short, Nat.cast_lt] at fewer
    obtain ⟨all, settled⟩ := busyFor_eq_iff.mp short.symm
    obtain ⟨after, ran⟩ := Callbacks.run_answering free all fewer
      (fun pending => absurd pending settled)
    exact ⟨busy + 1, _, ran, RetryPolicy.bounds_of_settled short.symm fewer after⟩

/-- A device that stays busy, and a lock that is poisoned in every wait. -/
theorem attempts_on_busy_device_are_bounded :
    ({ poisoned := [0] } : Locks).isFree (.mutex 0) = true ∧
      ∃ attempts finished,
        (Callbacks.answering (fun _ => .error .pending) fun _ => true).run (.ofMaximum 3 7)
            (.mutex 0) { driver := 0, locks := { poisoned := [0] } } = some finished ∧
          (RetryPolicy.ofMaximum 3 7).Bounds (.mutex 0) (fun _ => .error .pending) attempts
            finished :=
  ⟨rfl, attempts_are_bounded _ _ _ rfl⟩

end HardwareDecode
