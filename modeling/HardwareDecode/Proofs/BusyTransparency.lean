/-
Module: HardwareDecode.Proofs.BusyTransparency
Purpose: A device that was busy for a while leaves no trace in the frame that begins at last.  Over
  a scripted driver the attempts before that can be written down, and what follows them is the same,
  request by request, as if the first attempt had succeeded.
Main exports: RetryPolicy.opening, RetryPolicy.messages_attempts, Scripted.Backs.begins,
  reaches_opening, Backend.Transparent, busy_answers_are_transparent
-/
import HardwareDecode.Proofs.FailureReports
import HardwareDecode.Proofs.PayloadIntegrity

namespace HardwareDecode

variable {S ν ο : Type}

/-! ### The attempts to begin a frame -/

namespace RetryPolicy

/-- The attempt with a number finds the device busy, and the next one is waited for. -/
def busyRound (policy : RetryPolicy) (lock : DeviceLock) (surface : S) (number : Nat) :
    List (Exchange S ν) :=
  [⟨.call (.beginFrame surface), .failed .pending⟩, ⟨.log (.busy (UInt32.ofNat number)), ()⟩,
    ⟨.free lock false, ()⟩, ⟨.sleep policy.backoff, .ok ()⟩, ⟨.acquire lock, ()⟩]

/-- The attempts from one on, of which so many find the device busy and the next one begins the
frame. -/
def attempts (policy : RetryPolicy) (lock : DeviceLock) (surface : S) (number busy : Nat) :
    List (Exchange S ν) :=
  (List.range' number busy).flatMap (policy.busyRound lock surface) ++
    ⟨.call (.beginFrame surface), .ok ()⟩ ::
      if 1 < number + busy then [⟨.log (.beganAfter (UInt32.ofNat (number + busy))), ()⟩] else []

/-- A begin that succeeds after so many attempts which found the device busy. -/
def opening (policy : RetryPolicy) (lock : DeviceLock) (surface : S) (busy : Nat) :
    List (Exchange S ν) :=
  ⟨.acquire lock, ()⟩ :: policy.attempts lock surface 1 busy

theorem attempts_succ (policy : RetryPolicy) (lock : DeviceLock) (surface : S)
    (number busy : Nat) :
    (policy.attempts lock surface number (busy + 1) : List (Exchange S ν)) =
      policy.busyRound lock surface number ++ policy.attempts lock surface (number + 1) busy := by
  have same : number + (busy + 1) = number + 1 + busy := by omega
  rw [attempts, attempts, List.range'_succ, List.flatMap_cons, List.append_assoc, same]

end RetryPolicy

def Exchange.wait? : Exchange S ν → Option Nat
  | ⟨.sleep nanoseconds, _⟩ => some nanoseconds
  | _ => none

/-- The times for which a sequence of exchanges waits. -/
def waits (trace : List (Exchange S ν)) : List Nat := trace.filterMap Exchange.wait?

namespace RetryPolicy

variable {policy : RetryPolicy} {lock : DeviceLock} {surface : S}

theorem driverCalls_attempts (number busy : Nat) :
    driverCalls (policy.attempts lock surface number busy : List (Exchange S ν)) =
      busyBegins surface busy ++ [⟨.beginFrame surface, .ok ()⟩] := by
  induction busy generalizing number with
  | zero =>
      rw [attempts]
      split <;> rfl
  | succ busy inductionHypothesis =>
      rw [attempts_succ, driverCalls_append, inductionHypothesis]
      rfl

theorem records_attempts (number busy : Nat) :
    records (policy.attempts lock surface number busy : List (Exchange S ν)) =
      (List.range' number busy).map (fun attempt => .busy (UInt32.ofNat attempt)) ++
        if 1 < number + busy then [.beganAfter (UInt32.ofNat (number + busy))] else [] := by
  induction busy generalizing number with
  | zero =>
      rw [attempts]
      split <;> rfl
  | succ busy inductionHypothesis =>
      have same : number + (busy + 1) = number + 1 + busy := by omega
      rw [attempts_succ, records, List.filterMap_append, List.range'_succ, same]
      exact congrArg (LogRecord.busy (UInt32.ofNat number) :: ·) (inductionHypothesis (number + 1))

theorem messages_busy {number busy : Nat} (size : number + busy ≤ UInt32.size) :
    ((List.range' number busy).map fun attempt => LogRecord.busy (.ofNat attempt)).map
        LogRecord.message =
      (List.range' number busy).map fun attempt =>
        (.trace, "Decoder busy on attempt " ++ toString attempt ++ ", retrying") := by
  rw [List.map_map]
  apply List.map_congr_left
  intro attempt member
  have below := (List.mem_range'_1.mp member).2
  exact LogRecord.message_busy (Nat.lt_of_lt_of_le below size)

/-- The messages of the attempts, with their levels, as they are read. -/
theorem messages_attempts {number busy : Nat} (size : number + busy < UInt32.size) :
    (records (policy.attempts lock surface number busy : List (Exchange S ν))).map
        LogRecord.message =
      (List.range' number busy).map (fun attempt =>
          (.trace, "Decoder busy on attempt " ++ toString attempt ++ ", retrying")) ++
        if 1 < number + busy then
          [(.debug, "Began frame after " ++ toString (number + busy) ++ " attempts")]
        else [] := by
  rw [records_attempts, List.map_append, messages_busy (Nat.le_of_lt size)]
  split
  · rw [List.map_singleton, LogRecord.message_beganAfter size]
  · rfl

theorem waits_attempts (number busy : Nat) :
    waits (policy.attempts lock surface number busy : List (Exchange S ν)) =
      List.replicate busy policy.backoff := by
  induction busy generalizing number with
  | zero =>
      rw [attempts]
      split <;> rfl
  | succ busy inductionHypothesis =>
      rw [attempts_succ, waits, List.filterMap_append]
      exact congrArg (policy.backoff :: ·) (inductionHypothesis (number + 1))

end RetryPolicy

/-- What an exchange about the begin of a frame leaves behind, where each attempt leaves
`events`. -/
def Exchange.entries (events : List ο) : Exchange S ν → List (Entry ο ν)
  | ⟨.call _, _⟩ => events.map .event
  | ⟨.log record, _⟩ => [.log record]
  | _ => []

/-- A lock that was free is left as it was by someone who held it for a while. -/
theorem Locks.free_hold {locks : Locks} {lock : DeviceLock} (free : locks.isFree lock = true) :
    (locks.hold lock).free lock false = locks := by
  cases lock with
  | absent => rfl
  | mutex id =>
      have unheld : id ∉ locks.held := by simpa [isFree_mutex] using free
      have kept : (id :: locks.held).filter (· ≠ id) = locks.held := by
        rw [List.filter_cons_of_neg (by simp)]
        apply List.filter_eq_self.mpr
        intro other member
        have distinct : other ≠ id := fun same => unheld (same ▸ member)
        simpa using distinct
      exact congrArg (fun held => ({ held, poisoned := locks.poisoned } : Locks)) kept

/-! ### Begins over a scripted driver -/

/-- A driver that answers begins from its queue and records `events` at each of them. -/
def Scripted.BeginsWith (events : List ο) (backend : Backend NamedSurface Scripted.State ο)
    (surface : NamedSurface) (locks : Locks) : Prop :=
  ∀ state, backend.reply (.beginFrame surface) locks state =
    { outcome := (Scripted.next () state.script.begins).1
      state :=
        { script := { state.script with begins := (Scripted.next () state.script.begins).2 }
          buffers :=
            match (Scripted.next () state.script.begins).1 with
            | .ok () => .empty
            | _ => state.buffers }
      events }

/-- What a scripted driver records at a begin does not depend on its state. -/
theorem Scripted.Backs.begins {backend : Backend NamedSurface Scripted.State ο}
    (backs : Scripted.Backs backend) (surface : NamedSurface) (locks : Locks) :
    ∃ events, Scripted.BeginsWith events backend surface locks := by
  cases backs with
  | surfaceTable observed => exact ⟨[.beginFrame surface (locks.isHeld observed)], fun _ => rfl⟩
  | textureArray observed => exact ⟨[.beginFrame surface (locks.isHeld observed)], fun _ => rfl⟩
  | forwarding observed =>
      exact ⟨[.driver (.beginFrame surface (locks.isHeld observed))], fun _ => rfl⟩

section

variable {backend : Backend NamedSurface Scripted.State ο} {policy : RetryPolicy}
  {lock : DeviceLock} {surface : NamedSurface} {locks : Locks} {events : List ο}
  {script : Scripted.Script} {buffers : BufferStore UInt32} {later : List (Outcome Unit)}

/-- The world in which a frame is begun: the lock is held, and these are the next answers. -/
def Scripted.holding (script : Scripted.Script) (buffers : BufferStore UInt32) (locks : Locks)
    (lock : DeviceLock) (begins : List (Outcome Unit)) : World Scripted.State where
  driver := { script := { script with begins }, buffers }
  locks := locks.hold lock

theorem Scripted.BeginsWith.serve
    (begins : Scripted.BeginsWith events backend surface (locks.hold lock))
    (outcome : Outcome Unit) :
    backend.serve (ν := ν) (.call (.beginFrame surface))
        (Scripted.holding script buffers locks lock (outcome :: later)) =
      some
        { answer := outcome
          world :=
            Scripted.holding script
              (match outcome with
                | .ok () => .empty
                | _ => buffers)
              locks lock later
          journal := events.map .event } := by
  simp only [Backend.serve, Scripted.holding, begins _]
  rfl

/-- An attempt that finds the device busy leads to the next one, in the same world. -/
theorem reaches_busyRound (free : locks.isFree lock = true)
    (begins : Scripted.BeginsWith events backend surface (locks.hold lock)) {number : Nat}
    (below : number < policy.maxAttempts.toNat) :
    (backend.environment : Environment NamedSurface ν _ _).Reaches
      (policy.attemptFrom lock surface (UInt32.ofNat number)).run
      (Scripted.holding script buffers locks lock (.failed .pending :: later))
      (policy.busyRound lock surface number)
      ((policy.busyRound lock surface number : List (Exchange NamedSurface ν)).flatMap
        (Exchange.entries events))
      (policy.attemptFrom lock surface (UInt32.ofNat (number + 1))).run
      (Scripted.holding script buffers locks lock later) := by
  have size : number < UInt32.size := Nat.lt_trans below policy.maxAttempts.toNat_lt
  have again : Status.pending.isPending ∧ UInt32.ofNat number < policy.maxAttempts := by
    refine ⟨rfl, UInt32.lt_iff_toNat_lt.mpr ?_⟩
    rwa [UInt32.toNat_ofNat_of_lt' size]
  have next : UInt32.ofNat number + 1 = UInt32.ofNat (number + 1) :=
    (UInt32.ofNat_add number 1).symm
  have taken : backend.serve (ν := ν) (.acquire lock)
      { driver := (Scripted.holding script buffers locks lock later).driver
        locks := (locks.hold lock).free lock false } =
        some
          { answer := (), world := Scripted.holding script buffers locks lock later } := by
    rw [Locks.free_hold free]
    simp only [Backend.serve, Locks.take_eq, free, if_true]
    rfl
  rw [attemptFrom_run, ← next]
  simp only [RetryPolicy.busyRound, List.flatMap_cons, List.flatMap_nil, Exchange.entries]
  apply Environment.Reaches.answered (begins.serve (.failed .pending))
  change backend.environment.Reaches
    (policy.proceed lock surface (UInt32.ofNat number) (.failed .pending)) _ _ _ _ _
  rw [RetryPolicy.proceed, if_pos again]
  apply Environment.Reaches.answered rfl
  apply Environment.Reaches.answered rfl
  apply Environment.Reaches.answered rfl
  apply Environment.Reaches.answered taken
  exact .here _ _

/-- However often the device is busy, as long as attempts are left the frame begins in the same
world. -/
theorem reaches_attempts (free : locks.isFree lock = true)
    (begins : Scripted.BeginsWith events backend surface (locks.hold lock)) {number busy : Nat}
    (positive : 0 < number) (below : number + busy ≤ policy.maxAttempts.toNat) :
    (backend.environment : Environment NamedSurface ν _ _).Reaches
      (policy.attemptFrom lock surface (UInt32.ofNat number)).run
      (Scripted.holding script buffers locks lock
        (List.replicate busy (.failed .pending) ++ .ok () :: later))
      (policy.attempts lock surface number busy)
      ((policy.attempts lock surface number busy : List (Exchange NamedSurface ν)).flatMap
        (Exchange.entries events))
      (.done (.ok ())) (Scripted.holding script .empty locks lock later) := by
  induction busy generalizing number with
  | zero =>
      have size : number < UInt32.size := by
        have bound := policy.maxAttempts.toNat_lt
        simp only [UInt32.size]
        omega
      have several : UInt32.ofNat number > 1 ↔ 1 < number + 0 := by
        rw [gt_iff_lt, UInt32.lt_iff_toNat_lt, UInt32.toNat_ofNat_of_lt' size]
        rfl
      rw [attemptFrom_run, RetryPolicy.attempts]
      simp only [List.range'_zero, List.flatMap_nil, List.nil_append, List.flatMap_cons,
        Exchange.entries, List.replicate_zero]
      apply Environment.Reaches.answered (begins.serve (.ok ()))
      change backend.environment.Reaches
        (policy.proceed lock surface (UInt32.ofNat number) (.ok ())) _ _ _ _ _
      rw [RetryPolicy.proceed]
      by_cases more : 1 < number + 0
      · rw [if_pos (several.mpr more), if_pos more]
        apply Environment.Reaches.answered rfl
        exact .here _ _
      · rw [if_neg (fun many => more (several.mp many)), if_neg more]
        exact .here _ _
  | succ busy inductionHypothesis =>
      rw [RetryPolicy.attempts_succ, List.flatMap_append]
      apply Environment.Reaches.trans (reaches_busyRound free begins (by omega))
      exact inductionHypothesis (by omega) (by omega)

end

/-! ### Submissions behind their opening -/

/-- What a submission does once its frame has begun. -/
def Session.decoding (session : Session) (frame : Frame S ν) :
    Program S ν (Session.Result × Session) := do
  let executed ← frame.execute.run
  let outcome ← Program.request (.call .endFrame)
  match ← session.close executed outcome with
  | .ok after => return (.submitted (.ok ()), after)
  | .error interruption => return (.submitted (.error interruption), session)

theorem perform_submit_eq (session : Session) (frame : Frame S ν) :
    session.perform (.submit frame) =
      (session.retry.begin session.lock frame.surface).run >>= fun begun =>
        match begun with
        | .error interruption => return (.submitted (.error interruption), session)
        | .ok () => session.decoding frame := by
  rw [Session.perform, submit_run, bind_assoc]
  congr 1
  funext begun
  cases begun with
  | error interruption => rfl
  | ok _ =>
      simp only [bind_assoc]
      rfl

/-- A scripted driver with these answers to its next begins. -/
def Scripted.Script.beginning (script : Scripted.Script) (buffers : BufferStore UInt32)
    (begins : List (Outcome Unit)) : Scripted.State where
  script := { script with begins }
  buffers

/-- However often the device is busy, a submission begins its frame in the same world. -/
theorem reaches_opening {backend : Backend NamedSurface Scripted.State ο} {session : Session}
    (frame : Frame NamedSurface ν) {locks : Locks} {events : List ο} (script : Scripted.Script)
    (buffers : BufferStore UInt32) (later : List (Outcome Unit)) {busy : Nat}
    (free : locks.isFree session.lock = true)
    (begins : Scripted.BeginsWith events backend frame.surface (locks.hold session.lock))
    (below : busy < session.retry.maxAttempts.toNat) :
    backend.environment.Reaches (session.perform (.submit frame))
      { driver :=
          script.beginning buffers (List.replicate busy (.failed .pending) ++ .ok () :: later)
        locks }
      (session.retry.opening session.lock frame.surface busy)
      ((session.retry.opening session.lock frame.surface busy :
          List (Exchange NamedSurface ν)).flatMap (Exchange.entries events))
      (session.decoding frame) (Scripted.holding script .empty locks session.lock later) := by
  have taken : backend.serve (ν := ν) (.acquire session.lock)
      { driver :=
          script.beginning buffers (List.replicate busy (.failed .pending) ++ .ok () :: later)
        locks } =
        some
          { answer := ()
            world :=
              Scripted.holding script buffers locks session.lock
                (List.replicate busy (.failed .pending) ++ .ok () :: later) } := by
    simp only [Backend.serve, Locks.take_eq, free, if_true]
    rfl
  have began : backend.environment.Reaches
      (session.retry.begin session.lock frame.surface : Action NamedSurface ν Unit).run
      { driver :=
          script.beginning buffers (List.replicate busy (.failed .pending) ++ .ok () :: later)
        locks }
      (session.retry.opening session.lock frame.surface busy)
      ((session.retry.opening session.lock frame.surface busy :
          List (Exchange NamedSurface ν)).flatMap (Exchange.entries events))
      (.done (.ok ())) (Scripted.holding script .empty locks session.lock later) := by
    rw [RetryPolicy.opening, List.flatMap_cons]
    apply Environment.Reaches.answered taken
    have bound : 1 + busy ≤ session.retry.maxAttempts.toNat := by omega
    exact reaches_attempts free begins Nat.one_pos bound
  rw [perform_submit_eq]
  exact began.bind

/-- A submission that comes anywhere has taken the lock. -/
theorem isFree_of_opening {σ : Type} {backend : Backend S σ ο} {session : Session}
    {frame : Frame S ν} {world after : World σ} {trace : List (Exchange S ν)}
    {journal : List (Entry ο ν)} {rest : Program S ν (Session.Result × Session)} {busy : Nat}
    (reached : backend.environment.Reaches (session.perform (.submit frame)) world
      (session.retry.opening session.lock frame.surface busy ++ trace) journal rest after) :
    world.locks.isFree session.lock = true := by
  rw [perform_submit_eq] at reached
  obtain ⟨served, answered⟩ := reached.exists_served nofun
  have granted : backend.serve (.acquire session.lock) world = some served := answered
  exact Backend.isFree_of_serve granted session.lock rfl

/-- How a submission to a device that was busy for a while differs from one to a device that was
not: by the attempts that found it busy, the waits after them and the messages about both.  Behind
the begin of the frame all is the same. -/
structure Backend.Transparent (events : List ο) (backend : Backend NamedSurface Scripted.State ο)
    (session : Session) (frame : Frame NamedSurface ν) (quiet busy : World Scripted.State)
    (count : Nat) : Prop where
  /-- What the backend records at a begin, whichever of them it is. -/
  begins : ∀ state, (backend.reply (.beginFrame frame.surface) (quiet.locks.hold session.lock)
    state).events = events
  calls : driverCalls
      (session.retry.opening session.lock frame.surface count : List (Exchange NamedSurface ν)) =
    busyBegins frame.surface count ++ [⟨.beginFrame frame.surface, .ok ()⟩]
  messages : records
      (session.retry.opening session.lock frame.surface count : List (Exchange NamedSurface ν)) =
    (List.range' 1 count).map (fun attempt => .busy (UInt32.ofNat attempt)) ++
      if 0 < count then [.beganAfter (UInt32.ofNat (count + 1))] else []
  pauses : waits
      (session.retry.opening session.lock frame.surface count : List (Exchange NamedSurface ν)) =
    List.replicate count session.retry.backoff
  /-- Both come to the same points, with the same requests and entries behind their openings. -/
  alike : ∀ {trace journal rest after},
    backend.environment.Reaches (session.perform (.submit frame)) quiet
        (session.retry.opening session.lock frame.surface 0 ++ trace)
        ((session.retry.opening session.lock frame.surface 0).flatMap (Exchange.entries events) ++
          journal)
        rest after ↔
      backend.environment.Reaches (session.perform (.submit frame)) busy
        (session.retry.opening session.lock frame.surface count ++ trace)
        ((session.retry.opening session.lock frame.surface count).flatMap
            (Exchange.entries events) ++
          journal)
        rest after
  /-- Behind its opening a submission comes to its end. -/
  stops : busy.locks.isFree session.lock = true →
    ∃ trace journal rest after,
      backend.environment.Reaches (session.perform (.submit frame)) busy
          (session.retry.opening session.lock frame.surface count ++ trace)
          ((session.retry.opening session.lock frame.surface count).flatMap
              (Exchange.entries events) ++
            journal)
          rest after ∧
        rest.IsOver

theorem busy_answers_are_transparent {backend : Backend NamedSurface Scripted.State ο}
    (backs : Scripted.Backs backend) {session : Session} (frame : Frame NamedSurface ν)
    (script : Scripted.Script) (buffers : BufferStore UInt32) (locks : Locks)
    (later : List (Outcome Unit)) {count : Nat}
    (below : count < session.retry.maxAttempts.toNat) :
    ∃ events,
      backend.Transparent events session frame
        { driver := script.beginning buffers (.ok () :: later), locks }
        { driver :=
            script.beginning buffers (List.replicate count (.failed .pending) ++ .ok () :: later)
          locks }
        count := by
  obtain ⟨events, begins⟩ := backs.begins frame.surface (locks.hold session.lock)
  have opens {count : Nat} (free : locks.isFree session.lock = true)
      (below : count < session.retry.maxAttempts.toNat) :=
    reaches_opening frame script buffers later free begins below
  refine ⟨events, ?_⟩
  constructor
  · intro state
    rw [begins state]
  · exact RetryPolicy.driverCalls_attempts 1 count
  · have several : 1 < 1 + count ↔ 0 < count := by omega
    refine (RetryPolicy.records_attempts 1 count).trans ?_
    simp only [several]
    rw [Nat.add_comm 1 count]
  · exact RetryPolicy.waits_attempts 1 count
  · intro trace journal rest after
    by_cases free : locks.isFree session.lock = true
    · have quiet := opens free (Nat.zero_lt_of_lt below)
      have busy := opens free below
      exact quiet.append_iff.trans busy.append_iff.symm
    · constructor
      · intro reached
        exact absurd (isFree_of_opening reached) free
      · intro reached
        exact absurd (isFree_of_opening reached) free
  · intro free
    have opened := opens free below
    have framed : (session.perform (.submit frame)).Obeys (framing session.lock) _ .idle :=
      perform_framed
    obtain ⟨obeys, inStep⟩ := framed.of_reaches
      (backend.keepsStep_framing session.lock) (Phase.inStep_idle free) opened
    obtain ⟨trace, journal, rest, after, reached, stopped⟩ := obeys.exists_stop_framed inStep
    refine ⟨trace, journal, rest, after, opened.trans reached, ?_⟩
    rcases stopped with ⟨result, rfl⟩ | ⟨resume, rfl⟩
    · trivial
    · trivial

/-- A frame that begins at the last attempt, is decoded and cannot be ended. -/
theorem last_attempt_is_transparent :
    Scripted.Backs Scripted.forwarder ∧ 49 < RetryPolicy.standard.maxAttempts.toNat ∧
      ∃ events,
        Scripted.forwarder.Transparent events { format := .textureArray, lock := .mutex 0 }
          Frame.plain
          { driver := ({ ends := [.failed ⟨5⟩] } : Scripted.Script).beginning .empty [.ok ()] }
          { driver :=
              ({ ends := [.failed ⟨5⟩] } : Scripted.Script).beginning .empty
                (List.replicate 49 (.failed .pending) ++ [.ok ()]) }
          49 := by
  have backs : Scripted.Backs Scripted.forwarder := .forwarding _ _ _ _
  have below : 49 < RetryPolicy.standard.maxAttempts.toNat := by decide
  exact ⟨backs, below, busy_answers_are_transparent backs _ _ _ _ _ below⟩

end HardwareDecode
