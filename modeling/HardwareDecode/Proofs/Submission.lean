/-
Module: HardwareDecode.Proofs.Submission
Purpose: What a protocol must allow for a submission to obey it.  However the work on a frame goes,
  the same few requests follow: the end of the frame, the lock, and at most a message.
Main exports: RetryPolicy.attempts_induct, RetryPolicy.proceed, attemptFrom_run,
  Protocol.GrantsAttempts, begin_granted, Protocol.IgnoresLogs, Protocol.IgnoresFrees,
  Protocol.IgnoresPauses, Protocol.MayBegin, begin_obeys, Session.close, submit_run,
  submit_obeys_closing, Session.concluded, Session.Closes, submit_obeys
-/
import HardwareDecode.Proofs.Protocol
import HardwareDecode.Session

namespace HardwareDecode

variable {S ν τ : Type}

open HardwareDecode.Action

/-- To show something of every attempt, it may be assumed of the next one. -/
theorem RetryPolicy.attempts_induct (policy : RetryPolicy) {motive : UInt32 → Prop}
    (step : ∀ attempt, (attempt < policy.maxAttempts → motive (attempt + 1)) → motive attempt)
    (attempt : UInt32) : motive attempt :=
  step attempt fun _ => policy.attempts_induct step (attempt + 1)
termination_by policy.maxAttempts.toNat - attempt.toNat
decreasing_by exact attempts_left_decrease ‹_›

/-- What follows the answer to an attempt: a frame that began is begun, a busy device is attempted
again if the policy says so, and otherwise the lock is let go. -/
def RetryPolicy.proceed (policy : RetryPolicy) (lock : DeviceLock) (surface : S)
    (attempt : UInt32) : Outcome Unit → Program S ν (Except Interruption Unit)
  | .ok () =>
      if attempt > 1 then do
        Program.request (.log (.beganAfter attempt))
        return .ok ()
      else return .ok ()
  | .failed status =>
      if status.isPending ∧ attempt < policy.maxAttempts then do
        Program.request (.log (.busy attempt))
        Program.request (.free lock false)
        match ← Program.request (.sleep policy.backoff) with
        | .ok () => do
            Program.request (.acquire lock)
            (policy.attemptFrom lock surface (attempt + 1)).run
        | .error cause => return .error (.panic cause)
      else do
        Program.request (.free lock false)
        Program.request (.log (.beginFailed status))
        return .error (.failure (failure attempt status))
  | .panicked cause => do
      Program.request (.free lock true)
      return .error (.panic cause)

/-- An attempt is a begin and what follows the answer to it. -/
theorem attemptFrom_run (policy : RetryPolicy) (lock : DeviceLock) (surface : S)
    (attempt : UInt32) :
    (policy.attemptFrom lock surface attempt : Action S ν Unit).run =
      Program.request (.call (.beginFrame surface)) >>= policy.proceed lock surface attempt := by
  rw [RetryPolicy.attemptFrom, ExceptT.run_bind]
  apply congrArg (Program.ask (.call (.beginFrame surface)))
  funext outcome
  cases outcome with
  | ok _ =>
      simp only [Program.bind, Function.comp_apply, received, unwinds, RetryPolicy.verdict,
        RetryPolicy.proceed, Bool.false_eq_true, ↓reduceIte, Program.pure_eq_done]
      split <;> rfl
  | failed status =>
      simp only [Program.bind, Function.comp_apply, received, unwinds, RetryPolicy.proceed,
        Bool.false_eq_true, ↓reduceIte, Program.pure_eq_done]
      split
      next judged =>
        obtain ⟨pending, below, _⟩ := RetryPolicy.verdict_eq_busy_iff.mp judged
        cases pending
        rw [if_pos ⟨rfl, below⟩]
        apply congrArg (Program.ask (.log (.busy attempt)))
        funext _
        apply congrArg (Program.ask (.free lock false))
        funext _
        apply congrArg (Program.ask (.sleep policy.backoff))
        funext woken
        cases woken <;> rfl
      next judged =>
        simp only [RetryPolicy.verdict] at judged
        split at judged <;> cases judged
      next judged =>
        simp only [RetryPolicy.verdict] at judged
        split at judged
        next => cases judged
        next final =>
          cases judged
          rw [if_neg final]
          rfl
  | panicked cause => rfl

/-- What a protocol grants to the attempts to begin a frame: `ready` holds before each of them, and
`ends` of what comes of the last one. -/
structure Protocol.GrantsAttempts (protocol : Protocol S ν τ) (policy : RetryPolicy)
    (lock : DeviceLock) (surface : S) (ready : UInt32 → τ → Prop)
    (ends : τ → Except Interruption Unit → Prop) : Prop where
  calls : ∀ {attempt state}, ready attempt state →
    protocol.allows state (.call (.beginFrame surface))
  begins : ∀ {attempt state}, ready attempt state →
    let begun := protocol.next state (.call (.beginFrame surface)) (.ok ())
    let told := protocol.next begun (.log (.beganAfter attempt)) ()
    ends begun (.ok ()) ∧ protocol.allows begun (.log (.beganAfter attempt)) ∧ ends told (.ok ())
  waits : ∀ {attempt state}, ready attempt state → attempt < policy.maxAttempts →
    let busy := protocol.next state (.call (.beginFrame surface)) (.failed .pending)
    let told := protocol.next busy (.log (.busy attempt)) ()
    let freed := protocol.next told (.free lock false) ()
    protocol.allows busy (.log (.busy attempt)) ∧ protocol.allows told (.free lock false) ∧
      protocol.allows freed (.sleep policy.backoff)
  wakes : ∀ {attempt state}, ready attempt state → attempt < policy.maxAttempts →
    let busy := protocol.next state (.call (.beginFrame surface)) (.failed .pending)
    let told := protocol.next busy (.log (.busy attempt)) ()
    let freed := protocol.next told (.free lock false) ()
    let woken := protocol.next freed (.sleep policy.backoff) (.ok ())
    protocol.allows woken (.acquire lock) ∧
      ready (attempt + 1) (protocol.next woken (.acquire lock) ())
  disturbed : ∀ {attempt state cause}, ready attempt state → attempt < policy.maxAttempts →
    protocol.expects (.sleep policy.backoff) (.error cause) →
      let busy := protocol.next state (.call (.beginFrame surface)) (.failed .pending)
      let told := protocol.next busy (.log (.busy attempt)) ()
      let freed := protocol.next told (.free lock false) ()
      ends (protocol.next freed (.sleep policy.backoff) (.error cause)) (.error (.panic cause))
  fails : ∀ {attempt state status}, ready attempt state →
    ¬(status.isPending ∧ attempt < policy.maxAttempts) →
      let failed := protocol.next state (.call (.beginFrame surface)) (.failed status)
      let freed := protocol.next failed (.free lock false) ()
      protocol.allows failed (.free lock false) ∧
        protocol.allows freed (.log (.beginFailed status)) ∧
          ends (protocol.next freed (.log (.beginFailed status)) ())
            (.error (.failure (RetryPolicy.failure attempt status)))
  panics : ∀ {attempt state}, ready attempt state → ∀ cause,
    let panicked := protocol.next state (.call (.beginFrame surface)) (.panicked cause)
    protocol.allows panicked (.free lock true) ∧
      ends (protocol.next panicked (.free lock true) ()) (.error (.panic cause))

/-- Attempts obey a protocol that grants them. -/
theorem attemptFrom_granted {protocol : Protocol S ν τ} {policy : RetryPolicy} {lock : DeviceLock}
    {surface : S} {ready : UInt32 → τ → Prop} {ends : τ → Except Interruption Unit → Prop}
    (grants : protocol.GrantsAttempts policy lock surface ready ends) (attempt : UInt32) {state : τ}
    (holds : ready attempt state) :
    (policy.attemptFrom lock surface attempt : Action S ν Unit).run.Obeys protocol ends state := by
  induction attempt using policy.attempts_induct generalizing state with
  | step attempt inductionHypothesis =>
    rw [attemptFrom_run, Program.obeys_bind, Program.obeys_request]
    refine ⟨grants.calls holds, fun outcome _ => ?_⟩
    cases outcome with
    | ok _ =>
      obtain ⟨first, allowed, later⟩ := grants.begins holds
      rw [RetryPolicy.proceed]
      split
      · apply Program.obeys_bind.mpr
        exact Program.obeys_request.mpr ⟨allowed, fun _ _ => Program.obeys_done.mpr later⟩
      · exact Program.obeys_done.mpr first
    | failed status =>
      rw [RetryPolicy.proceed]
      split
      next again =>
        obtain rfl := status.isPending_iff.mp again.1
        obtain ⟨tells, frees, sleeps⟩ := grants.waits holds again.2
        apply Program.obeys_bind.mpr
        refine Program.obeys_request.mpr ⟨tells, fun _ _ => ?_⟩
        apply Program.obeys_bind.mpr
        refine Program.obeys_request.mpr ⟨frees, fun _ _ => ?_⟩
        apply Program.obeys_bind.mpr
        refine Program.obeys_request.mpr ⟨sleeps, fun woken expected => ?_⟩
        cases woken with
        | ok _ =>
            obtain ⟨acquires, ready⟩ := grants.wakes holds again.2
            apply Program.obeys_bind.mpr
            exact Program.obeys_request.mpr
              ⟨acquires, fun _ _ => inductionHypothesis again.2 ready⟩
        | error cause => exact Program.obeys_done.mpr (grants.disturbed holds again.2 expected)
      next final =>
        obtain ⟨frees, tells, finished⟩ := grants.fails holds final
        apply Program.obeys_bind.mpr
        refine Program.obeys_request.mpr ⟨frees, fun _ _ => ?_⟩
        apply Program.obeys_bind.mpr
        exact Program.obeys_request.mpr ⟨tells, fun _ _ => Program.obeys_done.mpr finished⟩
    | panicked cause =>
      obtain ⟨frees, finished⟩ := grants.panics holds cause
      apply Program.obeys_bind.mpr
      exact Program.obeys_request.mpr ⟨frees, fun _ _ => Program.obeys_done.mpr finished⟩

/-- A begin obeys a protocol that lets it take the lock and grants its attempts. -/
theorem begin_granted {protocol : Protocol S ν τ} {policy : RetryPolicy} {lock : DeviceLock}
    {surface : S} {ready : UInt32 → τ → Prop} {ends : τ → Except Interruption Unit → Prop}
    (grants : protocol.GrantsAttempts policy lock surface ready ends) {state : τ}
    (allowed : protocol.allows state (.acquire lock))
    (holds : ready 1 (protocol.next state (.acquire lock) ())) :
    (policy.begin lock surface : Action S ν Unit).run.Obeys protocol ends state :=
  obeys_bind.mpr (obeys_acquire.mpr ⟨allowed, fun _ _ => attemptFrom_granted grants 1 holds⟩)

/-- Messages are always allowed and change nothing. -/
structure Protocol.IgnoresLogs (protocol : Protocol S ν τ) : Prop where
  allowed : ∀ state record, protocol.allows state (.log record)
  kept : ∀ state record answer, protocol.next state (.log record) answer = state

theorem Protocol.IgnoresLogs.obeys_request_log {protocol : Protocol S ν τ}
    (ignores : protocol.IgnoresLogs) {state : τ} {record : LogRecord} {ends : τ → Unit → Prop}
    (holds : ends state ()) :
    (Program.request (.log record) : Program S ν Unit).Obeys protocol ends state := by
  refine Program.obeys_request.mpr ⟨ignores.allowed state record, fun answer _ => ?_⟩
  rw [ignores.kept]
  exact holds

theorem Protocol.IgnoresLogs.obeys_log {protocol : Protocol S ν τ}
    (ignores : protocol.IgnoresLogs) {state : τ} {record : LogRecord}
    {ends : τ → Except Interruption Unit → Prop} (holds : ends state (.ok ())) :
    (Action.log record : Action S ν Unit).run.Obeys protocol ends state :=
  Program.obeys_bind.mpr (ignores.obeys_request_log (Program.obeys_done.mpr holds))

/-- A failure that is logged leaves things as they are. -/
theorem Protocol.IgnoresLogs.obeys_onFailure {protocol : Protocol S ν τ}
    (ignores : protocol.IgnoresLogs) {state : τ} {α : Type} {record : LogRecord}
    {action : Action S ν α} {ends : τ → Except Interruption α → Prop}
    (obeys : action.run.Obeys protocol ends state) :
    (action.onFailure record).run.Obeys protocol ends state := by
  apply Action.obeys_onFailure.mpr
  apply obeys.weaken
  intro after result holds
  rcases result with (error | cause) | value
  · refine ⟨ignores.allowed after record, fun answer _ => ?_⟩
    rw [ignores.kept]
    exact holds
  · exact holds
  · exact holds

/-- Locks may always be let go of, which changes nothing. -/
structure Protocol.IgnoresFrees (protocol : Protocol S ν τ) : Prop where
  allowed : ∀ state lock unwinding, protocol.allows state (.free lock unwinding)
  kept : ∀ state lock unwinding, protocol.next state (.free lock unwinding) () = state

theorem Protocol.IgnoresFrees.obeys_free {protocol : Protocol S ν τ}
    (ignores : protocol.IgnoresFrees) {state : τ} {lock : DeviceLock} {unwinding : Bool}
    {ends : τ → Unit → Prop} (holds : ends state ()) :
    (Program.request (.free lock unwinding) : Program S ν Unit).Obeys protocol ends state := by
  refine Program.obeys_request.mpr ⟨ignores.allowed state lock unwinding, fun _ _ => ?_⟩
  rw [ignores.kept]
  exact holds

/-- Requests that only concern the time until a frame begins. -/
def Request.isPause : Request S ν → Prop
  | .acquire _ | .free _ _ | .sleep _ | .log _ => True
  | _ => False

/-- Locks, waits and messages are always allowed and change nothing. -/
structure Protocol.IgnoresPauses (protocol : Protocol S ν τ) : Prop where
  allowed : ∀ state request, request.isPause → protocol.allows state request
  kept : ∀ state request answer, request.isPause → protocol.next state request answer = state

theorem Protocol.IgnoresPauses.ignoresLogs {protocol : Protocol S ν τ}
    (ignores : protocol.IgnoresPauses) : protocol.IgnoresLogs where
  allowed state record := ignores.allowed state (.log record) trivial
  kept state record answer := ignores.kept state (.log record) answer trivial

section

variable {protocol : Protocol S ν τ} {before after : τ → Prop} {surface : S}

/-- Where a frame may be begun, what a failed attempt keeps and what a successful one leaves. -/
structure Protocol.MayBegin (protocol : Protocol S ν τ) (before after : τ → Prop) (surface : S) :
    Prop where
  allowed : ∀ {state}, before state → protocol.allows state (.call (.beginFrame surface))
  fails : ∀ {state outcome}, before state → (∀ value, outcome ≠ .ok value) →
    before (protocol.next state (.call (.beginFrame surface)) outcome)
  begins : ∀ {state}, before state →
    after (protocol.next state (.call (.beginFrame surface)) (.ok ()))

/-- Where pauses are ignored, attempts keep what failed ones keep. -/
theorem Protocol.MayBegin.grantsAttempts (may : protocol.MayBegin before after surface)
    (ignores : protocol.IgnoresPauses) {policy : RetryPolicy} {lock : DeviceLock} :
    protocol.GrantsAttempts policy lock surface (fun _ state => before state)
      fun last result =>
        match result with
        | .ok _ => after last
        | .error _ => before last := by
  have logs : ∀ state record, protocol.next state (.log record) () = state :=
    fun _ _ => ignores.kept _ _ _ trivial
  have frees : ∀ state unwinding, protocol.next state (.free lock unwinding) () = state :=
    fun _ _ => ignores.kept _ _ _ trivial
  have sleeps : ∀ state woken, protocol.next state (.sleep policy.backoff) woken = state :=
    fun _ _ => ignores.kept _ _ _ trivial
  have takes : ∀ state, protocol.next state (.acquire lock) () = state :=
    fun _ => ignores.kept _ _ _ trivial
  constructor
  case calls => exact may.allowed
  case begins =>
    intro attempt state holds
    simp only [logs]
    exact ⟨may.begins holds, ignores.allowed _ _ trivial, may.begins holds⟩
  case waits =>
    intro attempt state _ _
    exact ⟨ignores.allowed _ _ trivial, ignores.allowed _ _ trivial, ignores.allowed _ _ trivial⟩
  case wakes =>
    intro attempt state holds _
    simp only [logs, frees, sleeps, takes]
    exact ⟨ignores.allowed _ _ trivial, may.fails holds nofun⟩
  case disturbed =>
    intro attempt state cause holds _ _
    simp only [logs, frees, sleeps]
    exact may.fails holds nofun
  case fails =>
    intro attempt state status holds _
    simp only [logs, frees]
    exact ⟨ignores.allowed _ _ trivial, ignores.allowed _ _ trivial, may.fails holds nofun⟩
  case panics =>
    intro attempt state holds cause
    simp only [frees]
    exact ⟨ignores.allowed _ _ trivial, may.fails holds nofun⟩

/-- A begin leaves what a successful attempt leaves, or what failed attempts keep. -/
theorem begin_obeys (ignores : protocol.IgnoresPauses)
    (may : protocol.MayBegin before after surface) {policy : RetryPolicy} {lock : DeviceLock}
    {state : τ} (holds : before state) :
    (policy.begin lock surface : Action S ν Unit).run.Obeys protocol
      (fun last result =>
        match result with
        | .ok _ => after last
        | .error _ => before last)
      state := by
  apply begin_granted (may.grantsAttempts ignores) (ignores.allowed _ _ trivial)
  rw [ignores.kept _ (.acquire lock) _ trivial]
  exact holds

end

/-- What follows the end of a frame, by the result of the work on it and the answer to the end: the
lock is let go, and the result is that of the work unless only the end failed. -/
def Session.close (session : Session) :
    Except Interruption Unit → Outcome Unit → Program S ν (Except Interruption Session)
  | .error (.panic cause), .ok () => do
      Program.request (.free session.lock true)
      return .error (.panic cause)
  | .error (.panic cause), .failed status => do
      Program.request (.log (.endFailed status))
      Program.request (.free session.lock true)
      return .error (.panic cause)
  | .error (.panic _), .panicked _ => do
      let never ← Program.request .abort
      nomatch never
  | _, .panicked cause => do
      Program.request (.free session.lock true)
      return .error (.panic cause)
  | .error (.failure error), .ok () => do
      Program.request (.free session.lock false)
      return .error (.failure error)
  | .error (.failure error), .failed status => do
      Program.request (.free session.lock false)
      Program.request (.log (.endFailed status))
      return .error (.failure error)
  | .ok (), .ok () => do
      Program.request (.free session.lock false)
      session.count.run
  | .ok (), .failed status => do
      Program.request (.free session.lock false)
      Program.request (.log (.endFailed status))
      return .error (.failure (.driver .endFrame status))

/-- A submission is a begin, the work on the frame, its end, and what follows that. -/
theorem submit_run (session : Session) (frame : Frame S ν) :
    (session.submit frame).run =
      (session.retry.begin session.lock frame.surface).run >>= fun begun =>
        match begun with
        | .error interruption => return .error interruption
        | .ok () =>
            frame.execute.run >>= fun executed =>
              Program.request (.call .endFrame) >>= session.close executed := by
  rw [Session.submit, ExceptT.run_bind]
  congr 1
  funext begun
  cases begun with
  | error interruption => rfl
  | ok _ =>
    simp only [releasing, Frame.decode, onUnwind, attempt, ExceptT.run_bind, ExceptT.run_mk,
      bind_map_left, bind_assoc]
    congr 1
    funext executed
    rcases executed with (error | cause) | _
    · apply congrArg (Program.ask (.call .endFrame))
      funext outcome
      cases outcome <;> rfl
    · apply congrArg (Program.ask (.call .endFrame))
      funext outcome
      cases outcome with
      | ok _ | failed _ => rfl
      | panicked second =>
          apply congrArg (Program.ask .abort)
          funext never
          exact Empty.elim never
    · apply congrArg (Program.ask (.call .endFrame))
      funext outcome
      cases outcome <;> rfl

section

variable {protocol : Protocol S ν τ} {session : Session} {frame : Frame S ν}
  {ends : τ → Except Interruption Session → Prop}

/-- A submission obeys if its begin does, and after the work on a frame that has begun its end may
be asked for and what follows every answer to that obeys. -/
theorem submit_obeys_closing {begun : τ → Except Interruption Unit → Prop} {state : τ}
    (begins : (session.retry.begin session.lock frame.surface : Action S ν Unit).run.Obeys protocol
      begun state)
    (stops : ∀ after interruption, begun after (.error interruption) →
      ends after (.error interruption))
    (works : ∀ opened, begun opened (.ok ()) →
      frame.execute.run.Obeys protocol
        (fun worked executed =>
          protocol.allows worked (.call .endFrame) ∧
            ∀ outcome, protocol.expects (.call .endFrame) outcome →
              (session.close executed outcome : Program S ν _).Obeys protocol ends
                (protocol.next worked (.call .endFrame) outcome)) opened) :
    (session.submit frame).run.Obeys protocol ends state := by
  rw [submit_run, Program.obeys_bind]
  apply begins.weaken
  intro opened result holds
  cases result with
  | error interruption => exact Program.obeys_done.mpr (stops opened interruption holds)
  | ok _ =>
      apply Program.obeys_bind.mpr
      apply (works opened holds).weaken
      intro worked executed closes
      exact Program.obeys_bind.mpr (Program.obeys_request.mpr closes)

end

/-- The result of a submission, from that of the work on its frame and the answer to its end.  A
panic wins over failures, and an earlier failure over a later one. -/
def Session.concluded (session : Session) :
    Except Interruption Unit → Outcome Unit → Except Interruption Session
  | .error (.panic cause), _ => .error (.panic cause)
  | _, .panicked cause => .error (.panic cause)
  | .error (.failure error), _ => .error (.failure error)
  | .ok (), .failed status => .error (.failure (.driver .endFrame status))
  | .ok (), .ok () => .ok { session with framesSubmitted := session.framesSubmitted + 1 }

/-- A frame may be ended after the work on it, and the submission is over once the lock is free.
Only a second panic may end everything. -/
structure Session.Closes (session : Session) (protocol : Protocol S ν τ)
    (ends : τ → Except Interruption Session → Prop) (worked : τ)
    (executed : Except Interruption Unit) : Prop where
  ended : protocol.allows worked (.call .endFrame)
  freed : ∀ outcome, (unwinds executed = true → ∀ second, outcome ≠ .panicked second) →
    let closed := protocol.next worked (.call .endFrame) outcome
    let result := session.concluded executed outcome
    protocol.allows closed (.free session.lock (unwinds result)) ∧
      ends (protocol.next closed (.free session.lock (unwinds result)) ()) result
  aborted : unwinds executed = true → ∀ second,
    protocol.allows (protocol.next worked (.call .endFrame) (.panicked second)) .abort

section

variable {protocol : Protocol S ν τ} {session : Session} {frame : Frame S ν}
  {ends : τ → Except Interruption Session → Prop}

/-- Where messages are ignored, the frame is closed by letting the lock go, unless a second panic
ends everything. -/
theorem Session.Closes.obeys (ignores : protocol.IgnoresLogs) {worked : τ}
    {executed : Except Interruption Unit} (closes : session.Closes protocol ends worked executed)
    (outcome : Outcome Unit) :
    (session.close executed outcome : Program S ν _).Obeys protocol ends
      (protocol.next worked (.call .endFrame) outcome) := by
  rcases executed with (error | first) | _
  · obtain ⟨freed, finished⟩ := closes.freed outcome nofun
    cases outcome with
    | ok _ | panicked _ =>
        apply Program.obeys_bind.mpr
        exact Program.obeys_request.mpr ⟨freed, fun _ _ => Program.obeys_done.mpr finished⟩
    | failed status =>
        apply Program.obeys_bind.mpr
        refine Program.obeys_request.mpr ⟨freed, fun _ _ => ?_⟩
        exact Program.obeys_bind.mpr (ignores.obeys_request_log (Program.obeys_done.mpr finished))
  · -- The frame is ended while the panic unwinds, and that panic is all that is reported.
    cases outcome with
    | ok _ =>
        obtain ⟨freed, finished⟩ := closes.freed (.ok ()) fun _ => nofun
        apply Program.obeys_bind.mpr
        exact Program.obeys_request.mpr ⟨freed, fun _ _ => Program.obeys_done.mpr finished⟩
    | failed status =>
        obtain ⟨freed, finished⟩ := closes.freed (.failed status) fun _ => nofun
        apply Program.obeys_bind.mpr
        apply ignores.obeys_request_log
        apply Program.obeys_bind.mpr
        exact Program.obeys_request.mpr ⟨freed, fun _ _ => Program.obeys_done.mpr finished⟩
    | panicked second => exact Program.obeys_abort.mpr (closes.aborted rfl second)
  · obtain ⟨freed, finished⟩ := closes.freed outcome nofun
    cases outcome with
    | ok _ =>
        apply Program.obeys_bind.mpr
        refine Program.obeys_request.mpr ⟨freed, fun _ _ => ?_⟩
        exact obeys_bind.mpr (ignores.obeys_log (obeys_pure.mpr finished))
    | failed status =>
        apply Program.obeys_bind.mpr
        refine Program.obeys_request.mpr ⟨freed, fun _ _ => ?_⟩
        exact Program.obeys_bind.mpr (ignores.obeys_request_log (Program.obeys_done.mpr finished))
    | panicked cause =>
        apply Program.obeys_bind.mpr
        exact Program.obeys_request.mpr ⟨freed, fun _ _ => Program.obeys_done.mpr finished⟩

/-- Where locks are ignored, it matters only what is said once the frame has ended: that its end
failed, or that the frame was decoded. -/
theorem Protocol.IgnoresFrees.obeys_close (ignores : protocol.IgnoresFrees) {ended : τ}
    {executed : Except Interruption Unit} {outcome : Outcome Unit}
    (fails : ∀ status interruption, outcome = .failed status →
      session.concluded executed outcome = .error interruption →
        protocol.allows ended (.log (.endFailed status)) ∧
          ends (protocol.next ended (.log (.endFailed status)) ()) (.error interruption))
    (decodes : executed = .ok () → outcome = .ok () →
      let count := session.framesSubmitted + 1
      protocol.allows ended (.log (.submitted count)) ∧
        ends (protocol.next ended (.log (.submitted count)) ())
          (.ok { session with framesSubmitted := count }))
    (stops : ∀ interruption, (∀ status, outcome ≠ .failed status) →
      session.concluded executed outcome = .error interruption → ends ended (.error interruption))
    (aborts : ∀ second, outcome = .panicked second → protocol.allows ended .abort) :
    (session.close executed outcome : Program S ν _).Obeys protocol ends ended := by
  rcases executed with (error | first) | _
  · cases outcome with
    | ok _ | panicked _ =>
        have finished := stops _ (fun _ => nofun) rfl
        exact Program.obeys_bind.mpr (ignores.obeys_free (Program.obeys_done.mpr finished))
    | failed status =>
        obtain ⟨allowed, finished⟩ := fails status _ rfl rfl
        apply Program.obeys_bind.mpr
        apply ignores.obeys_free
        apply Program.obeys_bind.mpr
        exact Program.obeys_request.mpr ⟨allowed, fun _ _ => Program.obeys_done.mpr finished⟩
  · -- The lock is let go of last, by the panic that goes on.
    cases outcome with
    | ok _ =>
        have finished := stops _ (fun _ => nofun) rfl
        exact Program.obeys_bind.mpr (ignores.obeys_free (Program.obeys_done.mpr finished))
    | failed status =>
        obtain ⟨allowed, finished⟩ := fails status _ rfl rfl
        apply Program.obeys_bind.mpr
        refine Program.obeys_request.mpr ⟨allowed, fun _ _ => ?_⟩
        exact Program.obeys_bind.mpr (ignores.obeys_free (Program.obeys_done.mpr finished))
    | panicked second => exact Program.obeys_abort.mpr (aborts second rfl)
  · cases outcome with
    | ok _ =>
        obtain ⟨allowed, finished⟩ := decodes rfl rfl
        apply Program.obeys_bind.mpr
        apply ignores.obeys_free
        exact obeys_bind.mpr (obeys_log.mpr ⟨allowed, fun _ _ => obeys_pure.mpr finished⟩)
    | failed status =>
        obtain ⟨allowed, finished⟩ := fails status _ rfl rfl
        apply Program.obeys_bind.mpr
        apply ignores.obeys_free
        apply Program.obeys_bind.mpr
        exact Program.obeys_request.mpr ⟨allowed, fun _ _ => Program.obeys_done.mpr finished⟩
    | panicked cause =>
        have finished := stops _ (fun _ => nofun) rfl
        exact Program.obeys_bind.mpr (ignores.obeys_free (Program.obeys_done.mpr finished))

/-- A submission obeys if its begin does, and the work on a frame that has begun leaves it so that
it can be closed. -/
theorem submit_obeys (ignores : protocol.IgnoresLogs) {begun : τ → Except Interruption Unit → Prop}
    {state : τ}
    (begins : (session.retry.begin session.lock frame.surface : Action S ν Unit).run.Obeys protocol
      begun state)
    (stops : ∀ after interruption, begun after (.error interruption) →
      ends after (.error interruption))
    (works : ∀ opened, begun opened (.ok ()) →
      frame.execute.run.Obeys protocol (session.Closes protocol ends) opened) :
    (session.submit frame).run.Obeys protocol ends state := by
  apply submit_obeys_closing begins stops
  intro opened holds
  apply (works opened holds).weaken
  intro worked executed closes
  exact ⟨closes.ended, fun outcome _ => closes.obeys ignores outcome⟩

end

end HardwareDecode
