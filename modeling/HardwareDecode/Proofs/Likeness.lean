/-
Module: HardwareDecode.Proofs.Likeness
Purpose: Sessions that do the same although their locks have other names and they have counted other
  numbers of frames.  Surroundings that answer like requests alike take two such sessions from
  request to request in step, until both come to a stop.
Main exports: Likeness, Request.Pairs, Program.Alike, Session.Twins, perform_alike,
  performAll_alike, Environment.Lockstep, Stopped, Program.Alike.stop_together, Phase.BothInStep,
  Reply.Matches, Request.Pairs.served
-/
import HardwareDecode.Proofs.Dialogue
import HardwareDecode.Proofs.LockDiscipline
import Mathlib.Data.List.Forall2

namespace HardwareDecode

variable {S ν α β γ : Type}

/-- In what two sessions that do the same may differ: the locks they use, and their counts of
frames. -/
structure Likeness where
  lock : DeviceLock
  twin : DeviceLock
  counts : UInt64 → UInt64 → Prop
  counts_next : ∀ {count other}, counts count other → counts (count + 1) (other + 1)

/-- Requests that name no lock, and that all backends take alike. -/
def Request.isShared : Request S ν → Prop
  | .acquire _ | .free _ _ | .query _ => False
  | _ => True

/-- Like requests, with the pairs of answers they may get. -/
inductive Request.Pairs (likeness : Likeness) :
    (one other : Request S ν) → (one.Answer → other.Answer → Prop) → Prop where
  | acquire : Pairs likeness (.acquire likeness.lock) (.acquire likeness.twin) fun _ _ => True
  | free (unwinding : Bool) :
      Pairs likeness (.free likeness.lock unwinding) (.free likeness.twin unwinding)
        fun _ _ => True
  | counted {count other : UInt64} (counts : likeness.counts count other) :
      Pairs likeness (.log (.submitted count)) (.log (.submitted other)) fun _ _ => True
  | same {request : Request S ν} (shared : request.isShared) : Pairs likeness request request Eq

/-- Whatever answers they get alike, the programs make like requests, and they come to like ends. -/
inductive Program.Alike (likeness : Likeness) (Ends : α → β → Prop) :
    Program S ν α → Program S ν β → Prop where
  | done {value : α} {result : β} (ends : Ends value result) :
      Alike likeness Ends (.done value) (.done result)
  | ask {one other : Request S ν} {Answers : one.Answer → other.Answer → Prop}
      {resume : one.Answer → Program S ν α} {again : other.Answer → Program S ν β}
      (pairs : one.Pairs likeness other Answers)
      (later : ∀ answer reply, Answers answer reply →
        Alike likeness Ends (resume answer) (again reply)) :
      Alike likeness Ends (.ask one resume) (.ask other again)

namespace Program

variable {likeness : Likeness}

theorem Alike.bind {Mid : α → β → Prop} {δ : Type} {Ends : γ → δ → Prop} {program : Program S ν α}
    {twin : Program S ν β} {next : α → Program S ν γ} {later : β → Program S ν δ}
    (alike : program.Alike likeness Mid twin)
    (rest : ∀ value result, Mid value result →
      (next value).Alike likeness Ends (later result)) :
    (program >>= next).Alike likeness Ends (twin >>= later) := by
  induction alike with
  | done ends => exact rest _ _ ends
  | ask pairs _ inductionHypothesis => exact .ask pairs inductionHypothesis

/-- A program that names no lock is like itself. -/
theorem Asks.alike {sort : Request S ν → Prop} {program : Program S ν α}
    (asks : program.Asks sort) (shared : ∀ request, sort request → request.isShared) :
    program.Alike likeness Eq program := by
  induction program with
  | done value => exact .done rfl
  | ask request resume inductionHypothesis =>
      obtain ⟨sorted, later⟩ := obeys_ask.mp asks
      refine .ask (.same (shared request sorted)) ?_
      rintro answer _ rfl
      exact inductionHypothesis answer (later answer trivial)

end Program

namespace Action

variable {likeness : Likeness}

theorem alike_bind {Ends : Except Interruption β → Except Interruption γ → Prop}
    {action twin : Action S ν α} {next : α → Action S ν β} {later : α → Action S ν γ}
    (first : action.run.Alike likeness Eq twin.run)
    (rest : ∀ value, (next value).run.Alike likeness Ends (later value).run)
    (stops : ∀ interruption, Ends (.error interruption) (.error interruption)) :
    (action >>= next).run.Alike likeness Ends (twin >>= later).run := by
  rw [ExceptT.run_bind, ExceptT.run_bind]
  apply first.bind
  rintro (interruption | value) _ rfl
  · exact .done (stops interruption)
  · exact rest value

theorem alike_onUnwind {action twin : Action S ν α} {cleanUp mirrored : Program S ν Unit}
    (alike : action.run.Alike likeness Eq twin.run)
    (cleans : cleanUp.Alike likeness Eq mirrored) :
    (action.onUnwind cleanUp).run.Alike likeness Eq (twin.onUnwind mirrored).run := by
  apply alike.bind
  rintro ((error | cause) | value) _ rfl
  · exact .done rfl
  · apply cleans.bind
    rintro _ _ rfl
    exact .done rfl
  · exact .done rfl

theorem alike_releasing {action twin : Action S ν α}
    (alike : action.run.Alike likeness Eq twin.run) :
    (action.releasing likeness.lock).run.Alike likeness Eq (twin.releasing likeness.twin).run := by
  apply alike.bind
  rintro result _ rfl
  exact .ask (.free _) fun _ _ _ => .done rfl

theorem alike_log {record : LogRecord} :
    (Action.log record : Action S ν Unit).run.Alike likeness Eq (Action.log record).run :=
  .ask (.same trivial) fun _ _ _ => .done rfl

theorem alike_free :
    (Action.free likeness.lock : Action S ν Unit).run.Alike likeness Eq
      (Action.free likeness.twin).run :=
  .ask (.free false) fun _ _ _ => .done rfl

theorem alike_acquire :
    (Action.acquire likeness.lock : Action S ν Unit).run.Alike likeness Eq
      (Action.acquire likeness.twin).run :=
  .ask .acquire fun _ _ _ => .done rfl

end Action

open HardwareDecode.Action

variable {likeness : Likeness}

theorem attemptFrom_alike {policy : RetryPolicy} {surface : S} (attempt : UInt32) :
    (policy.attemptFrom likeness.lock surface attempt : Action S ν Unit).run.Alike likeness Eq
      (policy.attemptFrom likeness.twin surface attempt).run := by
  induction attempt using policy.attempts_induct with
  | step attempt inductionHypothesis =>
    rw [RetryPolicy.attemptFrom.eq_def policy likeness.lock,
      RetryPolicy.attemptFrom.eq_def policy likeness.twin]
    have calls : (Action.call (.beginFrame surface) : Action S ν _).run.Asks Request.isShared :=
      asks_call trivial
    have frees : (Program.request (.free likeness.lock true) : Program S ν Unit).Alike likeness Eq
        (Program.request (.free likeness.twin true)) := .ask (.free true) fun _ _ _ => .done rfl
    apply alike_bind (alike_onUnwind (calls.alike fun _ shared => shared) frees)
    · intro answer
      split
      next judged =>
        obtain ⟨_, below, _⟩ := RetryPolicy.verdict_eq_busy_iff.mp judged
        have sleeps : (Action.sleep policy.backoff : Action S ν Unit).run.Asks Request.isShared :=
          asks_sleep trivial
        refine alike_bind alike_log (fun _ => ?_) fun _ => rfl
        refine alike_bind alike_free (fun _ => ?_) fun _ => rfl
        refine alike_bind (sleeps.alike fun _ shared => shared) (fun _ => ?_) fun _ => rfl
        exact alike_bind alike_acquire (fun _ => inductionHypothesis below) fun _ => rfl
      next =>
        split
        · exact alike_log
        · exact .done rfl
      next =>
        refine alike_bind alike_free (fun _ => ?_) fun _ => rfl
        exact alike_bind alike_log (fun _ => .done rfl) fun _ => rfl
    · exact fun _ => rfl

theorem begin_alike {policy : RetryPolicy} {surface : S} :
    (policy.begin likeness.lock surface : Action S ν Unit).run.Alike likeness Eq
      (policy.begin likeness.twin surface).run :=
  alike_bind alike_acquire (fun _ => attemptFrom_alike 1) fun _ => rfl

theorem abandon_asks : (Frame.abandon : Program S ν Unit).Asks Request.isShared := by
  apply Program.obeys_bind.mpr
  apply Program.obeys_request.mpr
  refine ⟨trivial, fun outcome _ => ?_⟩
  cases outcome with
  | ok _ => exact Program.obeys_done.mpr trivial
  | failed status =>
      exact Program.obeys_ask.mpr ⟨trivial, fun _ _ => Program.obeys_done.mpr trivial⟩
  | panicked cause => exact Program.obeys_abort.mpr trivial

/-- The work on a frame names no lock. -/
theorem decode_asks {frame : Frame S ν} : frame.decode.run.Asks Request.isShared := by
  have works : frame.execute.run.Asks Request.isShared := by
    apply execute_asks.obeys_keeping
    · intro _ _ request work
      rcases request with (_ | _) | _ | _ | _ | _ | _ | _ | _ | _ <;>
        first | exact False.elim work | trivial
    · exact fun _ _ _ _ => trivial
    · trivial
  apply asks_bind (asks_onUnwind (asks_attempt works) abandon_asks)
  intro executed
  exact asks_bind (asks_call trivial) fun _ => asks_pure

/-! ### Submissions of like sessions -/

/-- The sessions differ in nothing but what the likeness says. -/
structure Session.Twins (likeness : Likeness) (one other : Session) : Prop where
  lock : one.lock = likeness.lock
  twin : other.lock = likeness.twin
  retry : one.retry = other.retry
  counts : likeness.counts one.framesSubmitted other.framesSubmitted

/-- Both submissions leave twins, or both are interrupted for one reason. -/
inductive Session.EndsAlike (likeness : Likeness) :
    Except Interruption Session → Except Interruption Session → Prop where
  | decoded {one other : Session} (twins : one.Twins likeness other) :
      EndsAlike likeness (.ok one) (.ok other)
  | interrupted (interruption : Interruption) :
      EndsAlike likeness (.error interruption) (.error interruption)

theorem count_alike {one other : Session} (twins : one.Twins likeness other) :
    (one.count : Action S ν Session).run.Alike likeness (Session.EndsAlike likeness)
      other.count.run := by
  have counts := likeness.counts_next twins.counts
  exact .ask (.counted counts) fun _ _ _ => .done (.decoded { twins with counts })

/-- Twins that are given one frame do the same. -/
theorem submit_alike {one other : Session} {frame : Frame S ν}
    (twins : one.Twins likeness other) :
    (one.submit frame).run.Alike likeness (Session.EndsAlike likeness)
      (other.submit frame).run := by
  simp only [Session.submit, twins.lock, twins.twin, twins.retry]
  refine alike_bind begin_alike (fun _ => ?_) .interrupted
  have decodes : frame.decode.run.Alike likeness Eq frame.decode.run :=
    decode_asks.alike fun _ shared => shared
  refine alike_bind (alike_releasing decodes) ?_ .interrupted
  rintro ⟨executed, ended⟩
  rcases executed with error | _
  · rcases ended with status | _
    · exact alike_bind alike_log (fun _ => .done (.interrupted _)) .interrupted
    · exact .done (.interrupted _)
  · rcases ended with status | _
    · exact alike_bind alike_log (fun _ => .done (.interrupted _)) .interrupted
    · exact count_alike twins

/-- The step gives the device something to do, or changes how it is begun. -/
def Session.Step.drives : Session.Step S ν → Prop
  | .submit _ | .setRetry _ => True
  | .surfaceIndex _ | .info => False

theorem perform_alike {one other : Session} {step : Session.Step S ν} (drives : step.drives)
    (twins : one.Twins likeness other) :
    (one.perform step).Alike likeness
      (fun done again => done.1 = again.1 ∧ done.2.Twins likeness again.2)
      (other.perform step) := by
  cases step with
  | submit frame =>
      apply (submit_alike twins).bind
      rintro _ _ (after | interruption)
      · exact .done ⟨rfl, after⟩
      · exact .done ⟨rfl, twins⟩
  | setRetry policy => exact .done ⟨rfl, { twins with retry := rfl }⟩
  | surfaceIndex _ | info => exact False.elim drives

/-- Twins do the same in the same steps. -/
theorem performAll_alike {one other : Session} {steps : List (Session.Step S ν)}
    (drives : ∀ step ∈ steps, step.drives) (twins : one.Twins likeness other) :
    (one.performAll steps).Alike likeness
      (fun done again => done.1 = again.1 ∧ done.2.Twins likeness again.2)
      (other.performAll steps) := by
  induction steps generalizing one other with
  | nil => exact .done ⟨rfl, twins⟩
  | cons step steps inductionHypothesis =>
      apply (perform_alike (drives step (List.mem_cons_self ..)) twins).bind
      rintro ⟨result, after⟩ ⟨_, mirrored⟩ ⟨rfl, twins⟩
      have later := fun step member => drives step (List.mem_cons_of_mem _ member)
      apply (inductionHypothesis later twins).bind
      rintro ⟨results, last⟩ ⟨_, final⟩ ⟨rfl, twins⟩
      exact .done ⟨rfl, twins⟩

/-! ### Surroundings in step -/

section

variable {τ W W' ε ε' : Type}

/-- Like requests that a protocol allows are answered alike, which keeps a relation between the
state of the protocol and those of the surroundings.  The entries left behind agree. -/
def Environment.Lockstep (likeness : Likeness) (environment : Environment S ν W ε)
    (mirror : Environment S ν W' ε') (protocol : Protocol S ν τ) (Same : τ → W → W' → Prop)
    (Agree : ε → ε' → Prop) : Prop :=
  ∀ {state world twin} {one other : Request S ν} {Answers : one.Answer → other.Answer → Prop},
    Same state world twin → protocol.allows state one → one.Pairs likeness other Answers →
      one ≠ .abort →
        ∃ served mirrored, environment.serve one world = some served ∧
          mirror.serve other twin = some mirrored ∧ Answers served.answer mirrored.answer ∧
            protocol.expects one served.answer ∧
              Same (protocol.next state one served.answer) served.world mirrored.world ∧
                List.Forall₂ Agree served.journal mirrored.journal

/-- Both programs are at their end, or both give everything up. -/
inductive Stopped (Ends : α → β → Prop) (Aborts : Prop) :
    Program S ν α → Program S ν β → Prop where
  | ended {value : α} {result : β} (ends : Ends value result) :
      Stopped Ends Aborts (.done value) (.done result)
  | aborted (aborts : Aborts) (resume : Empty → Program S ν α) (again : Empty → Program S ν β) :
      Stopped Ends Aborts (.ask .abort resume) (.ask .abort again)

theorem Stopped.weaken {Ends Wider : α → β → Prop} {Aborts Given : Prop} {rest : Program S ν α}
    {last : Program S ν β} (stopped : Stopped Ends Aborts rest last)
    (ends : ∀ value result, Ends value result → Wider value result) (aborts : Aborts → Given) :
    Stopped Wider Given rest last := by
  cases stopped with
  | ended reached => exact .ended (ends _ _ reached)
  | aborted given resume again => exact .aborted (aborts given) resume again

theorem Request.Pairs.answered {one other : Request S ν}
    {Answers : one.Answer → other.Answer → Prop} (pairs : one.Pairs likeness other Answers)
    {answer : one.Answer} {reply : other.Answer} (answers : Answers answer reply) :
    Exchange.answered? ⟨one, answer⟩ = Exchange.answered? ⟨other, reply⟩ := by
  cases pairs with
  | same shared =>
      cases answers
      rfl
  | _ => rfl

/-- Like programs come to a stop together, and say the same to their drivers on the way. -/
theorem Program.Alike.stop_together {environment : Environment S ν W ε}
    {mirror : Environment S ν W' ε'} {protocol : Protocol S ν τ} {Same : τ → W → W' → Prop}
    {Agree : ε → ε' → Prop} {Ends : α → β → Prop} {finishes : τ → α → Prop}
    {program : Program S ν α} {twin : Program S ν β} {state : τ} {world : W} {other : W'}
    (lockstep : environment.Lockstep likeness mirror protocol Same Agree)
    (alike : program.Alike likeness Ends twin) (obeys : program.Obeys protocol finishes state)
    (same : Same state world other) :
    ∃ trace said journal entries rest last after ending final,
      environment.Reaches program world trace journal rest after ∧
        mirror.Reaches twin other said entries last ending ∧
          driverCalls trace = driverCalls said ∧ List.Forall₂ Agree journal entries ∧
            Same final after ending ∧
              Stopped (fun value result => Ends value result ∧ finishes final value)
                (protocol.allows final .abort) rest last := by
  -- The answers lead both programs on, so the states of the surroundings stay general.
  induction alike generalizing state world other with
  | done ends =>
      exact ⟨[], [], [], [], _, _, world, other, state, .here _ _, .here _ _, rfl, .nil, same,
        .ended ⟨ends, Program.obeys_done.mp obeys⟩⟩
  | @ask one mirrored Answers resume again pairs _ inductionHypothesis =>
      obtain ⟨allowed, later⟩ := Program.obeys_ask.mp obeys
      by_cases aborts : one = .abort
      · subst aborts
        cases pairs with
        | same =>
            exact ⟨[], [], [], [], _, _, world, other, state, .here _ _, .here _ _, rfl, .nil, same,
              .aborted allowed _ _⟩
      · obtain ⟨served, reply, answered, replied, answers, expected, still, agree⟩ :=
          lockstep same allowed pairs aborts
        obtain ⟨trace, said, journal, entries, rest, last, after, ending, final, reached, mirrors,
          calls, agrees, ends, stopped⟩ :=
          inductionHypothesis _ _ answers (later _ expected) still
        refine ⟨_, _, _, _, rest, last, after, ending, final, .step answered reached,
          .step replied mirrors, ?_, List.rel_append agree agrees, ends, stopped⟩
        simp only [driverCalls, List.filterMap_cons, pairs.answered answers] at calls ⊢
        rw [calls]

end

/-! ### Locks in step -/

section

variable {σ σ' ο ο' : Type} {one other : Request S ν} {Answers : one.Answer → other.Answer → Prop}

theorem Request.Pairs.allows (pairs : one.Pairs likeness other Answers) {phase : Phase}
    (allowed : phase.allows likeness.lock one) : phase.allows likeness.twin other := by
  cases pairs with
  | acquire | free _ => cases phase <;> first | rfl | exact False.elim allowed
  | counted => cases phase <;> trivial
  | same shared =>
      rcases one with (_ | _ | _ | _ | _) | _ | _ | _ | _ | _ | _ | _ | _ <;>
        cases phase <;> first | exact allowed | exact False.elim shared

theorem Request.Pairs.next (pairs : one.Pairs likeness other Answers) {answer : one.Answer}
    {reply : other.Answer} (answers : Answers answer reply) (phase : Phase) :
    phase.next one answer = phase.next other reply := by
  cases pairs with
  | same shared => rw [answers]
  | _ => cases phase <;> rfl

theorem Request.Pairs.goesOn (pairs : one.Pairs likeness other Answers) (goesOn : one ≠ .abort) :
    other ≠ .abort := by
  cases pairs with
  | same shared => exact goesOn
  | _ => nofun

/-- In both surroundings the device lock is held as the phase says. -/
structure Phase.BothInStep (likeness : Likeness) (backend : Backend S σ ο)
    (mirror : Backend S σ' ο') (phase : Phase) (world : World σ) (twin : World σ') : Prop where
  one : phase.InStep backend likeness.lock world
  other : phase.InStep mirror likeness.twin twin

namespace Phase.BothInStep

variable {backend : Backend S σ ο} {mirror : Backend S σ' ο'} {phase : Phase} {world : World σ}
  {twin : World σ'}

theorem exists_served (both : phase.BothInStep likeness backend mirror world twin)
    (allowed : phase.allows likeness.lock one) (pairs : one.Pairs likeness other Answers)
    (goesOn : one ≠ .abort) :
    ∃ served mirrored, backend.serve one world = some served ∧
      mirror.serve other twin = some mirrored := by
  obtain ⟨served, answered⟩ := both.one.exists_served allowed goesOn
  obtain ⟨mirrored, replied⟩ :=
    both.other.exists_served (pairs.allows allowed) (pairs.goesOn goesOn)
  exact ⟨served, mirrored, answered, replied⟩

theorem next (both : phase.BothInStep likeness backend mirror world twin)
    (allowed : phase.allows likeness.lock one) (pairs : one.Pairs likeness other Answers)
    {served : Served one.Answer (World σ) (Entry ο ν)}
    {mirrored : Served other.Answer (World σ') (Entry ο' ν)}
    (answered : backend.serve one world = some served)
    (replied : mirror.serve other twin = some mirrored)
    (answers : Answers served.answer mirrored.answer) :
    (framing likeness.lock : Protocol S ν Phase).expects one served.answer ∧
      (phase.next one served.answer).BothInStep likeness backend mirror served.world
        mirrored.world := by
  obtain ⟨expected, held⟩ := backend.keepsStep_framing likeness.lock both.one allowed answered
  obtain ⟨_, other⟩ :=
    mirror.keepsStep_framing likeness.twin both.other (pairs.allows allowed) replied
  refine ⟨expected, held, ?_⟩
  rw [pairs.next answers]
  exact other

end Phase.BothInStep

/-! ### Backends that answer alike -/

/-- The replies have the same outcome, and leave states and events that agree. -/
structure Reply.Matches (Same : σ → σ' → Prop) (Agree : ο → ο' → Prop) (one : Reply α σ ο)
    (other : Reply α σ' ο') : Prop where
  outcome : one.outcome = other.outcome
  state : Same one.state other.state
  events : List.Forall₂ Agree one.events other.events

/-- Whatever leaves agreeing events, and the messages of like sessions, leaves agreeing entries. -/
structure Likeness.Leaves (likeness : Likeness) (Agree : ο → ο' → Prop)
    (Both : Entry ο ν → Entry ο' ν → Prop) : Prop where
  event : ∀ {event twin}, Agree event twin → Both (.event event) (.event twin)
  log : ∀ record, Both (.log record) (.log record)
  note : ∀ mark, Both (.note mark) (.note mark)
  counted : ∀ {count other}, likeness.counts count other →
    Both (.log (.submitted count)) (.log (.submitted other))

/-- Backends whose drivers take calls and new contents alike answer like requests alike. -/
theorem Request.Pairs.served {backend : Backend S σ ο} {mirror : Backend S σ' ο'}
    {Agree : ο → ο' → Prop} {Both : Entry ο ν → Entry ο' ν → Prop}
    {world : World σ} {twin : World σ'} (leaves : likeness.Leaves Agree Both)
    (pairs : one.Pairs likeness other Answers)
    (After : (request : Request S ν) → request.Answer → σ → σ' → Prop)
    (calls : ∀ call, one = .call call →
      (backend.reply call world.locks world.driver).Matches
        (After (.call call) (backend.reply call world.locks world.driver).outcome) Agree
        (mirror.reply call twin.locks twin.driver))
    (stores : ∀ kind contents, one = .store kind contents →
      After (.store kind contents) () (backend.driver.store kind contents world.driver)
        (mirror.driver.store kind contents twin.driver))
    (rests : (∀ call, one ≠ .call call) → ∀ answer, After one answer world.driver twin.driver)
    {served : Served one.Answer (World σ) (Entry ο ν)}
    {mirrored : Served other.Answer (World σ') (Entry ο' ν)}
    (answered : backend.serve one world = some served)
    (replied : mirror.serve other twin = some mirrored) :
    Answers served.answer mirrored.answer ∧
      After one served.answer served.world.driver mirrored.world.driver ∧
        List.Forall₂ Both served.journal mirrored.journal := by
  cases pairs with
  | acquire =>
      simp only [Backend.serve, Option.map_eq_some_iff] at answered replied
      obtain ⟨_, _, rfl⟩ := answered
      obtain ⟨_, _, rfl⟩ := replied
      exact ⟨trivial, rests (fun _ same => by cases same) _, .nil⟩
  | free unwinding =>
      cases answered
      cases replied
      exact ⟨trivial, rests (fun _ same => by cases same) _, .nil⟩
  | counted counts =>
      cases answered
      cases replied
      exact ⟨trivial, rests (fun _ same => by cases same) _, .cons (leaves.counted counts) .nil⟩
  | same shared =>
      cases one with
      | call call =>
          cases answered
          cases replied
          have replies := calls call rfl
          exact ⟨replies.outcome, replies.state,
            List.rel_map (fun _ _ agree => leaves.event agree) replies.events⟩
      | store kind contents =>
          cases answered
          cases replied
          exact ⟨rfl, stores kind contents rfl, .nil⟩
      | sleep _ =>
          cases answered
          cases replied
          exact ⟨rfl, rests (fun _ same => by cases same) _, .nil⟩
      | log record =>
          cases answered
          cases replied
          exact ⟨rfl, rests (fun _ same => by cases same) _, .cons (leaves.log record) .nil⟩
      | note mark =>
          cases answered
          cases replied
          exact ⟨rfl, rests (fun _ same => by cases same) _, .cons (leaves.note mark) .nil⟩
      | abort => cases answered
      | acquire _ | free _ _ | query _ => exact False.elim shared

end

end HardwareDecode
