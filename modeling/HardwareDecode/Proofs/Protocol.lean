/-
Module: HardwareDecode.Proofs.Protocol
Purpose: Rules for the conversation between a program and its surroundings, and what it means for a
  program to obey one.  A protocol keeps a state of its own along the exchanges; which requests may
  be made depends on it.  Obedience is settled by the shape of the program alone, and holds then at
  every point that the program comes to, whoever answers.
Main exports: Protocol, Protocol.both, Program.Obeys, Program.Asks, Program.obeys_bind,
  Action.obeys_bind, Program.Obeys.both, Program.Obeys.of_reaches, Program.Obeys.exists_stop
-/
import HardwareDecode.Effect.Action
import HardwareDecode.Effect.Progress

namespace HardwareDecode

/-- A rule for conversations, with states in `τ`. -/
structure Protocol (S ν τ : Type) where
  /-- The answers the surroundings are relied on to give. -/
  expects : (request : Request S ν) → request.Answer → Prop := fun _ _ => True
  /-- The requests a program may make in a state. -/
  allows : τ → Request S ν → Prop
  /-- The state after an answer. -/
  next : τ → (request : Request S ν) → request.Answer → τ

/-- The state after a sequence of exchanges. -/
def Protocol.after {S ν τ : Type} (protocol : Protocol S ν τ) (state : τ)
    (trace : List (Exchange S ν)) : τ :=
  trace.foldl (fun state exchange => protocol.next state exchange.request exchange.answer) state

/-- Two protocols at once. -/
def Protocol.both {S ν τ υ : Type} (protocol : Protocol S ν τ) (other : Protocol S ν υ) :
    Protocol S ν (τ × υ) where
  expects request answer := protocol.expects request answer ∧ other.expects request answer
  allows states request := protocol.allows states.1 request ∧ other.allows states.2 request
  next states request answer :=
    (protocol.next states.1 request answer, other.next states.2 request answer)

/-- The protocol of those who only make requests of one sort. -/
def Protocol.asking {S ν : Type} (sort : Request S ν → Prop) : Protocol S ν Unit where
  allows _ request := sort request
  next _ _ _ := ()

section

variable {S ν τ α β W ε : Type}

/-- Started in a state, the program makes only allowed requests, whatever expected answers it gets,
and its result stands in the relation `ends` to the state in which it finishes. -/
def Program.Obeys (protocol : Protocol S ν τ) (ends : τ → α → Prop) :
    Program S ν α → τ → Prop
  | .done value, state => ends state value
  | .ask request resume, state =>
      protocol.allows state request ∧
        ∀ answer, protocol.expects request answer →
          (resume answer).Obeys protocol ends (protocol.next state request answer)

/-- The surroundings give the answers that a protocol relies on, and keep a relation between its
states and theirs. -/
def Environment.KeepsStep (environment : Environment S ν W ε) (protocol : Protocol S ν τ)
    (InStep : τ → W → Prop) : Prop :=
  ∀ {state world request} {served : Served (Request.Answer request) W ε},
    InStep state world → protocol.allows state request →
      environment.serve request world = some served →
        protocol.expects request served.answer ∧
          InStep (protocol.next state request served.answer) served.world

/-- Whatever answers it gets, the program makes only requests of one sort. -/
def Program.Asks (sort : Request S ν → Prop) (program : Program S ν α) : Prop :=
  program.Obeys (.asking sort) (fun _ _ => True) ()

namespace Program

variable {protocol : Protocol S ν τ} {state : τ}

@[simp] theorem obeys_done {ends : τ → α → Prop} {value : α} :
    (done value : Program S ν α).Obeys protocol ends state ↔ ends state value :=
  Iff.rfl

@[simp] theorem obeys_ask {ends : τ → α → Prop} {request : Request S ν}
    {resume : request.Answer → Program S ν α} :
    (ask request resume).Obeys protocol ends state ↔
      protocol.allows state request ∧
        ∀ answer, protocol.expects request answer →
          (resume answer).Obeys protocol ends (protocol.next state request answer) :=
  Iff.rfl

theorem obeys_request {request : Request S ν} {ends : τ → request.Answer → Prop} :
    (Program.request request).Obeys protocol ends state ↔
      protocol.allows state request ∧
        ∀ answer, protocol.expects request answer →
          ends (protocol.next state request answer) answer :=
  Iff.rfl

/-- A program may be held to less than it keeps. -/
theorem Obeys.weaken {ends wider : τ → α → Prop} {program : Program S ν α}
    (obeys : program.Obeys protocol ends state)
    (weaker : ∀ state value, ends state value → wider state value) :
    program.Obeys protocol wider state := by
  induction program generalizing state with
  | done value => exact weaker state value obeys
  | ask request resume inductionHypothesis =>
      obtain ⟨allowed, later⟩ := obeys
      exact ⟨allowed, fun answer expected =>
        inductionHypothesis answer (later answer expected)⟩

/-- Two programs in sequence obey exactly if the first one obeys and leaves a state from which the
second one does. -/
theorem obeys_bind {ends : τ → β → Prop} {program : Program S ν α}
    {next : α → Program S ν β} :
    (program >>= next).Obeys protocol ends state ↔
      program.Obeys protocol (fun state value => (next value).Obeys protocol ends state) state := by
  induction program generalizing state with
  | done value => exact Iff.rfl
  | ask request resume inductionHypothesis =>
      rw [ask_bind, obeys_ask, obeys_ask]
      exact and_congr_right fun _ =>
        forall₂_congr fun answer _ => inductionHypothesis answer

/-- Nothing comes after an abort, which is never answered. -/
theorem obeys_abort {ends : τ → α → Prop} {next : Empty → Program S ν α} :
    ((Program.request .abort : Program S ν Empty) >>= next).Obeys protocol ends state ↔
      protocol.allows state .abort :=
  ⟨fun obeys => obeys.1, fun allowed => ⟨allowed, nofun⟩⟩

/-- A program that only makes requests of one sort obeys wherever these are allowed, and keeps what
each of them keeps. -/
theorem Asks.obeys_keeping {sort : Request S ν → Prop} {program : Program S ν α}
    {kept : τ → Prop} (asks : program.Asks sort)
    (allowed : ∀ {state}, kept state → ∀ request, sort request → protocol.allows state request)
    (keeps : ∀ {state}, kept state → ∀ request, sort request → ∀ answer,
      kept (protocol.next state request answer))
    (holds : kept state) : program.Obeys protocol (fun after _ => kept after) state := by
  induction program generalizing state with
  | done value => exact holds
  | ask request resume inductionHypothesis =>
      obtain ⟨sorted, later⟩ := asks
      refine ⟨allowed holds request sorted, fun answer _ => ?_⟩
      exact inductionHypothesis answer (later answer trivial) (keeps holds request sorted answer)

/-- Requests that change nothing leave a program in the state in which it started. -/
theorem Asks.obeys {sort : Request S ν → Prop} {program : Program S ν α}
    (asks : program.Asks sort)
    (allowed : ∀ request, sort request → protocol.allows state request)
    (kept : ∀ request, sort request → ∀ answer, protocol.next state request answer = state) :
    program.Obeys protocol (fun after _ => after = state) state := by
  apply asks.obeys_keeping
  · rintro _ rfl
    exact allowed
  · rintro _ rfl
    exact kept
  · rfl

/-- A program that makes requests of one sort makes requests of every wider one. -/
theorem Asks.mono {sort wider : Request S ν → Prop} {program : Program S ν α}
    (asks : program.Asks sort) (widens : ∀ request, sort request → wider request) :
    program.Asks wider :=
  asks.obeys_keeping (fun _ => widens) (fun _ _ _ _ => trivial) trivial

theorem Obeys.both {υ : Type} {other : Protocol S ν υ} {second : υ} {ends : τ → α → Prop}
    {finishes : υ → α → Prop} {program : Program S ν α} (obeys : program.Obeys protocol ends state)
    (also : program.Obeys other finishes second) :
    program.Obeys (protocol.both other)
      (fun states value => ends states.1 value ∧ finishes states.2 value) (state, second) := by
  induction program generalizing state second with
  | done value => exact ⟨obeys, also⟩
  | ask request resume inductionHypothesis =>
      refine ⟨⟨obeys.1, also.1⟩, fun answer expected => ?_⟩
      exact inductionHypothesis answer (obeys.2 answer expected.1) (also.2 answer expected.2)

/-- If the surroundings keep in step with the protocol, they still do so wherever the program comes
to, and what is left of the program still obeys. -/
theorem Obeys.of_reaches {ends : τ → α → Prop} {program rest : Program S ν α}
    {environment : Environment S ν W ε} {world after : W} {trace : List (Exchange S ν)}
    {journal : List ε} {InStep : τ → W → Prop} (keeps : environment.KeepsStep protocol InStep)
    (obeys : program.Obeys protocol ends state) (inStep : InStep state world)
    (reached : environment.Reaches program world trace journal rest after) :
    rest.Obeys protocol ends (protocol.after state trace) ∧
      InStep (protocol.after state trace) after := by
  induction reached generalizing state with
  | here => exact ⟨obeys, inStep⟩
  | step answered _ inductionHypothesis =>
      obtain ⟨expected, still⟩ := keeps inStep obeys.1 answered
      exact inductionHypothesis (obeys.2 _ expected) still

/-- If the surroundings also answer what is allowed, the program comes to its end, unless it gives
everything up. -/
theorem Obeys.exists_stop {ends : τ → α → Prop} {program : Program S ν α}
    {environment : Environment S ν W ε} {world : W} {InStep : τ → W → Prop}
    (keeps : environment.KeepsStep protocol InStep)
    (answers : ∀ {state world request}, InStep state world → protocol.allows state request →
      request ≠ .abort → ∃ served, environment.serve request world = some served)
    (obeys : program.Obeys protocol ends state) (inStep : InStep state world) :
    ∃ trace journal rest after, environment.Reaches program world trace journal rest after ∧
      ((∃ value, rest = done value) ∨ ∃ resume, rest = ask .abort resume) := by
  induction program generalizing state world with
  | done value => exact ⟨[], [], _, world, .here _ _, .inl ⟨value, rfl⟩⟩
  | ask request resume inductionHypothesis =>
      by_cases aborts : request = .abort
      · subst aborts
        exact ⟨[], [], _, world, .here _ _, .inr ⟨resume, rfl⟩⟩
      · obtain ⟨served, answered⟩ := answers inStep obeys.1 aborts
        obtain ⟨expected, still⟩ := keeps inStep obeys.1 answered
        obtain ⟨trace, journal, rest, after, reached, stopped⟩ :=
          inductionHypothesis served.answer (obeys.2 _ expected) still
        exact ⟨_, _, rest, after, .step answered reached, stopped⟩

end Program

namespace Action

variable {protocol : Protocol S ν τ} {state : τ}

theorem obeys_bind {ends : τ → Except Interruption β → Prop} {action : Action S ν α}
    {next : α → Action S ν β} :
    (action >>= next).run.Obeys protocol ends state ↔
      action.run.Obeys protocol
        (fun state result =>
          match result with
          | .ok value => (next value).run.Obeys protocol ends state
          | .error interruption => ends state (.error interruption)) state := by
  rw [ExceptT.run_bind, Program.obeys_bind]
  refine iff_of_eq (congrArg (fun ends => Program.Obeys protocol ends action.run state) ?_)
  funext state result
  cases result <;> rfl

@[simp] theorem obeys_pure {ends : τ → Except Interruption α → Prop} {value : α} :
    (pure value : Action S ν α).run.Obeys protocol ends state ↔ ends state (.ok value) :=
  Iff.rfl

@[simp] theorem obeys_fail {ends : τ → Except Interruption α → Prop} {error : FrameError} :
    (Action.fail error : Action S ν α).run.Obeys protocol ends state ↔
      ends state (.error (.failure error)) :=
  Iff.rfl

@[simp] theorem obeys_panic {ends : τ → Except Interruption α → Prop} {cause : Panic} :
    (Action.panic cause : Action S ν α).run.Obeys protocol ends state ↔
      ends state (.error (.panic cause)) :=
  Iff.rfl

theorem obeys_request {request : Request S ν}
    {ends : τ → Except Interruption request.Answer → Prop} :
    (Action.request request).run.Obeys protocol ends state ↔
      protocol.allows state request ∧
        ∀ answer, protocol.expects request answer →
          ends (protocol.next state request answer) (.ok answer) :=
  Iff.rfl

section

variable {ends : τ → Except Interruption Unit → Prop}

theorem obeys_log {record : LogRecord} :
    (Action.log record : Action S ν Unit).run.Obeys protocol ends state ↔
      protocol.allows state (.log record) ∧
        ∀ answer, protocol.expects (.log record) answer →
          ends (protocol.next state (.log record) answer) (.ok answer) :=
  Iff.rfl

theorem obeys_store {kind : BufferKind} {contents : Bytes} :
    (Action.request (.store kind contents) : Action S ν Unit).run.Obeys protocol ends state ↔
      protocol.allows state (.store kind contents) ∧
        ∀ answer, protocol.expects (.store kind contents) answer →
          ends (protocol.next state (.store kind contents) answer) (.ok answer) :=
  Iff.rfl

theorem obeys_note {mark : ν} :
    (Action.request (.note mark) : Action S ν Unit).run.Obeys protocol ends state ↔
      protocol.allows state (.note mark) ∧
        ∀ answer, protocol.expects (.note mark) answer →
          ends (protocol.next state (.note mark) answer) (.ok answer) :=
  Iff.rfl

theorem obeys_acquire {lock : DeviceLock} :
    (Action.acquire lock : Action S ν Unit).run.Obeys protocol ends state ↔
      protocol.allows state (.acquire lock) ∧
        ∀ answer, protocol.expects (.acquire lock) answer →
          ends (protocol.next state (.acquire lock) answer) (.ok answer) :=
  Iff.rfl

theorem obeys_free {lock : DeviceLock} :
    (Action.free lock : Action S ν Unit).run.Obeys protocol ends state ↔
      protocol.allows state (.free lock false) ∧
        ∀ answer, protocol.expects (.free lock false) answer →
          ends (protocol.next state (.free lock false) answer) (.ok answer) :=
  Iff.rfl

end

theorem obeys_call {call : Call S}
    {ends : τ → Except Interruption (Except Status call.Answer) → Prop} :
    (Action.call call : Action S ν _).run.Obeys protocol ends state ↔
      protocol.allows state (.call call) ∧
        ∀ outcome, protocol.expects (.call call) outcome →
          ends (protocol.next state (.call call) outcome) (received outcome) :=
  Iff.rfl

theorem obeys_sleep {nanoseconds : Nat} {ends : τ → Except Interruption Unit → Prop} :
    (Action.sleep nanoseconds : Action S ν Unit).run.Obeys protocol ends state ↔
      protocol.allows state (.sleep nanoseconds) ∧
        ∀ answer, protocol.expects (.sleep nanoseconds) answer →
          ends (protocol.next state (.sleep nanoseconds) answer)
            (answer.mapError .panic) := by
  rw [Action.sleep, obeys_bind, obeys_request]
  refine and_congr_right fun _ => forall₂_congr fun answer _ => ?_
  cases answer <;> exact Iff.rfl

theorem obeys_attempt {ends : τ → Except Interruption (Except FrameError α) → Prop}
    {action : Action S ν α} :
    action.attempt.run.Obeys protocol ends state ↔
      action.run.Obeys protocol (fun state result => ends state (attempted result)) state :=
  Program.obeys_bind

theorem obeys_onFailure {record : LogRecord} {ends : τ → Except Interruption α → Prop}
    {action : Action S ν α} :
    (action.onFailure record).run.Obeys protocol ends state ↔
      action.run.Obeys protocol
        (fun state result =>
          match result with
          | .error (.failure error) =>
              protocol.allows state (.log record) ∧
                ∀ answer, protocol.expects (.log record) answer →
                  ends (protocol.next state (.log record) answer) (.error (.failure error))
          | result => ends state result) state := by
  rw [Action.onFailure, obeys_bind, obeys_attempt]
  refine iff_of_eq (congrArg (fun ends => Program.Obeys protocol ends action.run state) ?_)
  funext state result
  rcases result with (_ | _) | _ <;> rfl

theorem obeys_onUnwind {cleanUp : Program S ν Unit} {ends : τ → Except Interruption α → Prop}
    {action : Action S ν α} :
    (action.onUnwind cleanUp).run.Obeys protocol ends state ↔
      action.run.Obeys protocol
        (fun state result =>
          match result with
          | .error (.panic cause) =>
              cleanUp.Obeys protocol (fun state _ => ends state (.error (.panic cause))) state
          | result => ends state result) state := by
  rw [Action.onUnwind, ExceptT.run_mk, Program.obeys_bind]
  refine iff_of_eq (congrArg (fun ends => Program.Obeys protocol ends action.run state) ?_)
  funext state result
  rcases result with (_ | cause) | _
  · rfl
  · exact propext Program.obeys_bind
  · rfl

/-! ### Making requests of one sort -/

section

variable {sort : Request S ν → Prop}

@[simp] theorem asks_pure {value : α} : (pure value : Action S ν α).run.Asks sort := trivial

@[simp] theorem asks_fail {error : FrameError} :
    (Action.fail error : Action S ν α).run.Asks sort := trivial

@[simp] theorem asks_panic {cause : Panic} : (Action.panic cause : Action S ν α).run.Asks sort :=
  trivial

theorem asks_request {request : Request S ν} (sorted : sort request) :
    (Action.request request).run.Asks sort :=
  obeys_request.mpr ⟨sorted, fun _ _ => trivial⟩

theorem asks_log {record : LogRecord} (sorted : sort (.log record)) :
    (Action.log record : Action S ν Unit).run.Asks sort :=
  obeys_log.mpr ⟨sorted, fun _ _ => trivial⟩

theorem asks_call {call : Call S} (sorted : sort (.call call)) :
    (Action.call call : Action S ν _).run.Asks sort :=
  obeys_call.mpr ⟨sorted, fun _ _ => trivial⟩

theorem asks_sleep {nanoseconds : Nat} (sorted : sort (.sleep nanoseconds)) :
    (Action.sleep nanoseconds : Action S ν Unit).run.Asks sort :=
  obeys_sleep.mpr ⟨sorted, fun _ _ => trivial⟩

theorem asks_bind {action : Action S ν α} {next : α → Action S ν β}
    (first : action.run.Asks sort) (rest : ∀ value, (next value).run.Asks sort) :
    (action >>= next).run.Asks sort := by
  apply obeys_bind.mpr
  apply Program.Obeys.weaken first
  intro _ result _
  cases result with
  | ok value => exact rest value
  | error _ => trivial

theorem asks_attempt {action : Action S ν α} (asks : action.run.Asks sort) :
    action.attempt.run.Asks sort :=
  obeys_attempt.mpr asks

theorem asks_onUnwind {cleanUp : Program S ν Unit} {action : Action S ν α}
    (asks : action.run.Asks sort) (cleans : cleanUp.Asks sort) :
    (action.onUnwind cleanUp).run.Asks sort := by
  apply obeys_onUnwind.mpr
  apply Program.Obeys.weaken asks
  intro _ result _
  rcases result with (_ | _) | _
  · trivial
  · exact Program.Obeys.weaken cleans fun _ _ _ => trivial
  · trivial

theorem asks_onFailure {record : LogRecord} {action : Action S ν α}
    (asks : action.run.Asks sort) (sorted : sort (.log record)) :
    (action.onFailure record).run.Asks sort := by
  apply obeys_onFailure.mpr
  apply Program.Obeys.weaken asks
  intro _ result _
  rcases result with (_ | _) | _
  · exact ⟨sorted, fun _ _ => trivial⟩
  · trivial
  · trivial

end

end Action

-- From here on a program is followed by the rules above; unfolding it would run it on every answer.
attribute [irreducible] Program.Obeys

end

end HardwareDecode
