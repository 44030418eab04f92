/-
Module: HardwareDecode.Proofs.ScheduleIndependence
Purpose: What a session does among others that share its device is what it does by itself.  A driver
  is only called under the session's own hold of the mutex, so it sees the same held lock and the
  same count of frames in every schedule.
Main exports: Recording.Alone, Recording.Alone.exists_mirrored, Crew.exists_alone,
  Decoder.WorksAsAlone, schedules_do_not_matter
-/
import HardwareDecode.Proofs.MutualExclusion

namespace HardwareDecode

variable {S ν ο : Type} {id : Nat} {phases : Nat → Phase}

/-! ### A session and its double -/

/-- The count of the frames in flight that a session by itself leaves in a phase. -/
def Phase.count (phase : Phase) : Recording.InFlight :=
  if phase = .inFrame then some 1 else some 0

theorem Phase.count_of_not_holds {phase : Phase} (free : phase.holds = false) :
    phase.count = some 0 := by
  cases phase with
  | opening | idle => rfl
  | holding | inFrame | ended => cases free

/-- A move of a session by itself counts its frame and nothing else. -/
theorem Phase.Move.count {lock : DeviceLock} {phase after : Phase} {request : Request S ν}
    {answer : request.Answer} (move : Move lock phase request answer after) {tally : Tally}
    (counted : tally.count = phase.count) : (tally.next request answer).count = after.count := by
  cases move with
  | rests quiet => rw [Tally.next_of_isQuiet quiet, counted]
  | opens named => exact counted
  | takes => exact counted
  | begins surface =>
      simp only [Tally.next, counted]
      rfl
  | beginFails surface failed => rw [Tally.next_of_begin_fails failed, counted]
  | works work => rw [Tally.next_of_isWork work, counted]
  | ends outcome =>
      simp only [Tally.next, counted]
      rfl
  | frees held closed unwinding => exact counted.trans (if_neg closed)

namespace Recording

/-- A driver looks at nothing of the locks but whether the observed one is held. -/
theorem reply_congr {observed lock : DeviceLock} {slice : UInt32 → UInt32} {locks others : Locks}
    (same : locks.isHeld observed = others.isHeld observed) (call : HardwareDecode.Call UInt32)
    (driver : InFlight × State) :
    (context observed lock slice : Backend UInt32 _ ο).reply call locks driver =
      (context observed lock slice).reply call others driver := by
  have recorded : ∀ state : State, state.record observed locks = state.record observed others := by
    intro state
    funext call
    rw [State.record, State.record, same]
  cases call <;>
    simp only [context, TextureArray.backend, Driver.encoded, Backend.reply, Recording.driver,
      getBuffer, releaseBuffer, beginFrame, submitBuffers, endFrame, recorded]

/-- The world of a session in a phase, with a driver in a state, that works by itself: the count and
the mutex are those that its own frame and its own hold account for. -/
structure Alone (id : Nat) (phase : Phase) (state : State) (world : World (InFlight × State)) :
    Prop where
  driver : world.driver = (phase.count, state)
  held : world.locks.isHeld (.mutex id) = phase.holds

/-- A session that is alone stays so, whatever it is answered. -/
theorem Alone.step {lock : DeviceLock} {slice : UInt32 → UInt32} {phase : Phase} {state : State}
    {request : Request UInt32 ν} {world : World (InFlight × State)}
    {served : Served request.Answer (World (InFlight × State)) (Entry ο ν)}
    (alone : Alone id phase state world) (allowed : phase.allows (.mutex id) request)
    (answered : (context (.mutex id) lock slice).serve request world = some served) :
    Alone id (phase.next request served.answer) served.world.driver.2 served.world := by
  have move := Phase.move_of_allowed allowed served.answer
  constructor
  · have counted : (tally world.driver).count = phase.count := congrArg Prod.fst alone.driver
    have tallied : (tally served.world.driver).count = _ :=
      (congrArg Tally.count (tally_serve answered)).trans (move.count counted)
    exact Prod.ext tallied rfl
  · rw [Backend.serve_locks answered]
    exact move.isHeld_onLocks alone.held

/-- The world of a session in a phase, with others at work: what it shares with them is its own as
long as it holds the mutex. -/
structure Crowded (id : Nat) (phase : Phase) (world : World (InFlight × State)) : Prop where
  counted : phase.holds = true → world.driver.1 = phase.count
  held : phase.holds = true → world.locks.isHeld (.mutex id) = true

section

variable {slice : UInt32 → UInt32} {phase : Phase} {request : Request UInt32 ν}
  {crowd world : World (InFlight × State)}
  {served : Served request.Answer (World (InFlight × State)) (Entry ο ν)}

/-- What a session is answered in a crowd, it is answered alone: only while it holds the mutex does
it look at what it shares with others. -/
theorem Alone.exists_served (alone : Alone id phase crowd.driver.2 world)
    (crowded : Crowded id phase crowd) (allowed : phase.allows (.mutex id) request)
    (answered : (context (.mutex id) (.mutex id) slice).serve request crowd = some served) :
    ∃ after : World (InFlight × State),
      (context (.mutex id) (.mutex id) slice).serve request world =
          some ⟨served.answer, after, served.journal⟩ ∧
        after.driver.2 = served.world.driver.2 := by
  have sameDriver : phase.holds = true → world.driver = crowd.driver := fun holds =>
    alone.driver.trans (Prod.ext (crowded.counted holds).symm rfl)
  have sameState : world.driver.2 = crowd.driver.2 := by rw [alone.driver]
  cases request with
  | call call =>
      cases answered
      have holds := Phase.holds_of_allows_call allowed
      have sameHold := (alone.held.trans holds).trans (crowded.held holds).symm
      refine ⟨{ world with driver := _ }, ?_, rfl⟩
      rw [Backend.serve, reply_congr sameHold, sameDriver holds]
  | store kind contents =>
      cases answered
      have holds : phase.holds = true := by
        cases phase with
        | inFrame => rfl
        | _ => exact False.elim allowed
      refine ⟨{ world with driver := _ }, ?_, rfl⟩
      rw [Backend.serve, sameDriver holds]
  | acquire lock =>
      obtain ⟨locks, taken, rfl⟩ := Option.map_eq_some_iff.mp answered
      have free : world.locks.isFree lock = true := by
        cases phase with
        | idle =>
            obtain rfl : lock = .mutex id := allowed
            simpa [Locks.isHeld, Phase.holds] using alone.held
        | _ => exact False.elim allowed
      exact ⟨{ world with locks := world.locks.hold lock },
        by simp [Backend.serve, Locks.take_eq, free], sameState⟩
  | abort => cases answered
  | _ =>
      cases answered
      exact ⟨_, rfl, sameState⟩

/-- A session that is alone stays alone, with the driver that it would have in a crowd. -/
theorem Alone.exists_mirrored (alone : Alone id phase crowd.driver.2 world)
    (crowded : Crowded id phase crowd) (allowed : phase.allows (.mutex id) request)
    (answered : (context (.mutex id) (.mutex id) slice).serve request crowd = some served) :
    ∃ after : World (InFlight × State),
      (context (.mutex id) (.mutex id) slice).serve request world =
          some ⟨served.answer, after, served.journal⟩ ∧
        Alone id (phase.next request served.answer) served.world.driver.2 after := by
  obtain ⟨after, mirrored, state⟩ := alone.exists_served crowded allowed answered
  have still := alone.step allowed mirrored
  rw [state] at still
  exact ⟨after, mirrored, still⟩

end

end Recording

/-! ### Sessions in a crew -/

/-- Users of an exclusive mutex do not disturb its holder. -/
theorem Phase.Exclusive.crowded {world : World (Recording.InFlight × Recording.State)}
    (exclusive : Exclusive id phases world.locks world.driver.1) (number : Nat) :
    Recording.Crowded id (phases number) world where
  counted holds := exclusive.count_eq fun _ => exclusive.holds_of_ne holds
  held holds := exclusive.held holds

/-- However the requests are interleaved, a worker comes along its own exchanges to the same point
by itself, with its driver in the same state and the same journal. -/
theorem Crew.exists_alone {crew last : Decoders ν ο} {trace : List (Nat × Exchange UInt32 ν)}
    (reached : crew.Reaches trace last) (inStep : crew.InStep id phases) {number : Nat}
    {worker : Decoder ν ο} (found : crew.workers[number]? = some worker)
    {slice : UInt32 → UInt32}
    (watches : worker.backend = Recording.context (.mutex id) (.mutex id) slice)
    {world : World (Recording.InFlight × Recording.State)}
    (alone : Recording.Alone id (phases number) worker.driver world) :
    ∃ later journal after,
      last.workers[number]? = some later ∧ later.journal = worker.journal ++ journal ∧
        worker.backend.environment.Reaches worker.program world (historyOf number trace) journal
            later.program after ∧
          Recording.Alone id
            ((framing (.mutex id)).after (phases number) (historyOf number trace)) later.driver
            after := by
  induction reached generalizing phases worker world with
  | here => exact ⟨worker, [], world, found, (List.append_nil _).symm, .here _ _, alone⟩
  | @step crew last acting actor request resume served trace actorFound asks answered _
      inductionHypothesis =>
      have bound := (List.getElem?_eq_some_iff.mp actorFound).1
      have stepped := inStep.step actorFound asks answered
      by_cases same : acting = number
      · subst same
        obtain rfl := Option.some.inj (actorFound.symm.trans found)
        have allowed := (inStep.each found).obeys
        rw [asks] at allowed
        rw [watches] at answered
        have exclusive : Phase.Exclusive id phases (crew.world actor).locks
            (crew.world actor).driver.1 := inStep.exclusive
        obtain ⟨after, mirrored, still⟩ := alone.exists_mirrored (exclusive.crowded _)
          (Program.obeys_ask.mp allowed).1 answered
        obtain ⟨later, journal, last, laterFound, journals, reaches, ends⟩ :=
          inductionHypothesis stepped (List.getElem?_set_self bound) watches
            (by rw [Phase.update_self]; exact still)
        rw [Phase.update_self] at ends
        refine ⟨later, served.journal ++ journal, last, laterFound, ?_, ?_, ?_⟩
        · rw [journals, List.append_assoc]
        · rw [watches] at reaches ⊢
          rw [historyOf_cons_self, asks]
          exact .answered mirrored reaches
        · rw [historyOf_cons_self]
          exact ends
      · have distinct : number ≠ acting := Ne.symm same
        obtain ⟨later, journal, last, laterFound, journals, reaches, ends⟩ :=
          inductionHypothesis stepped ((List.getElem?_set_ne same).trans found) watches
            (by rw [Phase.update_of_ne _ distinct]; exact alone)
        rw [Phase.update_of_ne _ distinct] at ends
        rw [historyOf_cons_of_ne same]
        exact ⟨later, journal, last, laterFound, journals, reaches, ends⟩

/-- Where a worker is by itself: no frame is in flight but its own. -/
def Decoder.ownWorld (worker : Decoder ν ο) (locks : Locks) :
    World (Recording.InFlight × Recording.State) :=
  { driver := (some 0, worker.driver), locks }

/-- A worker who came to the end of its program as `later` comes to the same end by itself, wherever
the mutex is free: with the same results and session, the same calls under the same holds, the same
buffers and the same journal. -/
def Decoder.WorksAsAlone (id : Nat) (worker later : Decoder ν ο) : Prop :=
  ∀ {value}, later.result? = some value → ∀ {locks : Locks}, locks.isFree (.mutex id) = true →
    ∃ finished,
      worker.backend.run worker.program (worker.ownWorld locks) = some finished ∧
        finished.value = value ∧ finished.world.driver = (some 0, later.driver) ∧
          later.journal = worker.journal ++ finished.journal

theorem Worker.program_of_result {γ σ α : Type} {worker : Worker S ν γ σ ο α} {value : α}
    (finished : worker.result? = some value) : worker.program = .done value := by
  unfold result? at finished
  split at finished
  next done => rw [done, Option.some.inj finished]
  next => cases finished

section

variable {crew last : Decoders ν ο} {trace : List (Nat × Exchange UInt32 ν)} {number : Nat}
  {worker later : Decoder ν ο}

/-- The way of a worker of a crew that starts is a way of its own, and at its end the mutex is let
go of. -/
theorem Crew.Starts.exists_own_way (starts : crew.Starts id) (reached : crew.Reaches trace last)
    (found : crew.workers[number]? = some worker) {slice : UInt32 → UInt32}
    (watches : worker.backend = Recording.context (.mutex id) (.mutex id) slice)
    (laterFound : last.workers[number]? = some later) {locks : Locks}
    (free : locks.isFree (.mutex id) = true)
    {value : Except Refusal (List Session.Result × Session)}
    (done : later.result? = some value) :
    ((framing (.mutex id)).after .opening (historyOf number trace)).holds = false ∧
      ∃ journal after, later.journal = worker.journal ++ journal ∧
        worker.backend.environment.Reaches worker.program (worker.ownWorld locks)
            (historyOf number trace) journal (.done value) after ∧
          after.driver = (some 0, later.driver) := by
  have held : locks.isHeld (.mutex id) = false := by
    rw [Locks.isHeld, free]
    rfl
  have begins : Recording.Alone id .opening worker.driver (worker.ownWorld locks) := ⟨rfl, held⟩
  obtain ⟨last, journal, after, lastFound, journals, reaches, alone⟩ :=
    exists_alone reached starts.inStep found watches begins
  obtain rfl := Option.some.inj (lastFound.symm.trans laterFound)
  rw [Worker.program_of_result done] at reaches
  have inStep : Phase.opening.InStep worker.backend (.mutex id) (worker.ownWorld locks) :=
    ⟨fun _ => by rw [watches]; rfl, fun _ _ => held⟩
  obtain ⟨format, policy, steps, lives⟩ := starts.lives worker (List.mem_of_getElem? found)
  have obeys : worker.program.Obeys (framing (.mutex id)) (fun phase _ => phase.holds = false)
      .opening := by
    rw [lives]
    exact life_framed
  have released := Program.obeys_done.mp
    (obeys.of_reaches (worker.backend.keepsStep_framing _) inStep reaches).1
  refine ⟨released, journal, after, journals, reaches, ?_⟩
  rw [alone.driver, Phase.count_of_not_holds released]

/-- Whoever of a crew is finished did what it does by itself, and no frame is in flight once all
are. -/
structure Crew.IgnoresSchedule (id : Nat) (crew last : Decoders ν ο) : Prop where
  sameCrew : last.workers.length = crew.workers.length
  each : ∀ {number : Nat} {worker later : Decoder ν ο}, crew.workers[number]? = some worker →
    last.workers[number]? = some later → Decoder.WorksAsAlone id worker later
  emptied : (∀ worker ∈ last.workers, worker.result?.isSome = true) → last.shared = some 0

/-- Sessions that share a mutex and a count do not depend on the schedule by which they are
interleaved. -/
theorem schedules_do_not_matter (starts : crew.Starts id)
    (watch : ∀ worker ∈ crew.workers, ∃ slice,
      worker.backend = Recording.context (.mutex id) (.mutex id) slice)
    (reached : crew.Reaches trace last) : Crew.IgnoresSchedule id crew last := by
  have sameCrew := reached.length_workers
  refine ⟨sameCrew, ?_, ?_⟩
  · intro number worker later found laterFound value done locks free
    obtain ⟨slice, watches⟩ := watch worker (List.mem_of_getElem? found)
    obtain ⟨_, journal, after, journals, reaches, counted⟩ :=
      starts.exists_own_way reached found watches laterFound free done
    exact ⟨⟨value, after, journal⟩, Environment.run_eq_some_iff.mpr ⟨_, reaches⟩, rfl, counted,
      journals⟩
  · intro finished
    have inStep := starts.inStep.of_reaches reached
    rcases inStep.exclusive.counted with ⟨empty, _⟩ | ⟨_, number, inFrame⟩
    · exact empty
    -- Whoever had the frame that is counted would hold the mutex at the end of its program.
    · have holds := Phase.holds_of_eq_inFrame inFrame
      cases laterFound : last.workers[number]? with
      | none => exact absurd (inStep.absent laterFound) (by rw [holds]; nofun)
      | some later =>
          obtain ⟨value, done⟩ :=
            Option.isSome_iff_exists.mp (finished later (List.mem_of_getElem? laterFound))
          have bound := (List.getElem?_eq_some_iff.mp laterFound).1
          rw [sameCrew] at bound
          have found := List.getElem?_eq_getElem bound
          obtain ⟨slice, watches⟩ := watch _ (List.mem_of_getElem? found)
          have released :=
            (starts.exists_own_way reached found watches laterFound
              (rfl : Locks.isFree {} (.mutex id) = true) done).1
          rw [holds] at released
          cases released

/-- A session whose device is busy sleeps while another one panics over its frame, and then takes
the poisoned mutex. -/
theorem poisoned_mutex_does_not_matter :
    ∃ last trace,
      Crew.Starts 0 { shared := some 0, workers := [Decoder.single 1, Decoder.single 0] } ∧
        (∀ worker ∈ [Decoder.single 1, Decoder.single 0], ∃ slice,
          worker.backend = Recording.context (.mutex 0) (.mutex 0) slice) ∧
          Crew.Reaches { shared := some 0, workers := [Decoder.single 1, Decoder.single 0] } trace
              last ∧
            trace.map Prod.fst =
                [0, 1, 0, 1, 0, 0, 0, 0, 1, 1, 1, 0, 1, 1, 1, 1, 1] ++ List.replicate 9 0 ∧
              (∀ worker ∈ last.workers, worker.result?.isSome = true) ∧
                Crew.IgnoresSchedule 0
                  { shared := some 0, workers := [Decoder.single 1, Decoder.single 0] } last := by
  have starts :
      Crew.Starts 0 { shared := some 0, workers := [Decoder.single 1, Decoder.single 0] } :=
    Decoder.starts_singles [1, 0]
  have watch : ∀ worker ∈ [Decoder.single 1, Decoder.single 0], ∃ slice,
      worker.backend = Recording.context (.mutex 0) (.mutex 0) slice := by
    intro worker member
    simp only [List.mem_cons, List.not_mem_nil, or_false] at member
    rcases member with rfl | rfl <;> exact ⟨_, rfl⟩
  have follows : (Crew.follow
      ({ shared := some 0, workers := [Decoder.single 1, Decoder.single 0] } :
        Decoders Empty Empty)
      ([0, 1, 0, 1, 0, 0, 0, 0, 1, 1, 1, 0, 1, 1, 1, 1, 1] ++ List.replicate 9 0)).any
        (fun last => last.workers.all fun worker => worker.result?.isSome) = true := by
    decide +kernel
  obtain ⟨last, followed, finished⟩ := (Option.any_eq_true _ _).mp follows
  obtain ⟨trace, reached, schedule⟩ := Crew.follow_eq_some_iff.mp followed
  exact ⟨last, trace, starts, watch, reached, schedule, List.all_eq_true.mp finished,
    schedules_do_not_matter starts watch reached⟩

end

end HardwareDecode
