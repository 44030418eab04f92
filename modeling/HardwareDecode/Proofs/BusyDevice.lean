/-
Module: HardwareDecode.Proofs.BusyDevice
Purpose: How submissions share out the busy begins of a device.  The device counts its begins over
  the whole life of a session and a policy counts its attempts anew in every submission, so whole
  submissions run out of attempts before one gets through, and behind that one nobody waits.
Main exports: Recording.Answers, Recording.Backs.answers, Recording.Answers.of_submission,
  beginsAfter, Backend.TimesOut, Backend.BeginsBehind, Recording.SharesBusyBegins,
  busy_begins_are_shared_out
-/
import HardwareDecode.Proofs.FrameBracket
import HardwareDecode.Proofs.FrameIndependence

namespace HardwareDecode

variable {ν ο : Type}

namespace Recording

/-! ### The answers of a busy device -/

/-- What a device says that is busy at its first `busy` begins: it has counted one number of begins
before, and another number behind.  An end never panics. -/
inductive Answers (busy : UInt32) : UInt32 → Dialogue UInt32 → UInt32 → Prop where
  | nothing (calls : UInt32) : Answers busy calls [] calls
  | pending {calls last : UInt32} {surface : UInt32} {later : Dialogue UInt32}
      (still : calls + 1 ≤ busy) (rest : Answers busy (calls + 1) later last) :
      Answers busy calls (⟨.beginFrame surface, .failed .pending⟩ :: later) last
  | begins {calls last : UInt32} {surface : UInt32} {later : Dialogue UInt32}
      (past : ¬ calls + 1 ≤ busy) (rest : Answers busy (calls + 1) later last) :
      Answers busy calls (⟨.beginFrame surface, .ok ()⟩ :: later) last
  | works {calls last : UInt32} {answered : Answered UInt32} {later : Dialogue UInt32}
      (work : answered.call.isWork) (rest : Answers busy calls later last) :
      Answers busy calls (answered :: later) last
  | ends {calls last : UInt32} {outcome : Outcome Unit} {later : Dialogue UInt32}
      (returned : outcome.Returned) (rest : Answers busy calls later last) :
      Answers busy calls (⟨.endFrame, outcome⟩ :: later) last

section

variable {observed : DeviceLock} {backend : Backend UInt32 (InFlight × State) ο}
  {world after : World (InFlight × State)}

/-- Only begins are counted. -/
theorem Backs.beginCalls_reply (backs : Backs observed backend) {call : HardwareDecode.Call UInt32}
    (other : ∀ surface, call ≠ .beginFrame surface) (locks : Locks) (state : InFlight × State) :
    (backend.reply call locks state).state.2.beginCalls = state.2.beginCalls := by
  cases call with
  | getBuffer kind =>
      simp only [Backend.reply, backs.driver_eq]
      cases refused : failing state.2.script.getStatus kind with
      | none =>
          rw [plain_getBuffer_of_none refused]
          rfl
      | some status =>
          rw [plain_getBuffer_of_some refused]
          rfl
  | releaseBuffer kind =>
      simp only [Backend.reply, backs.driver_eq]
      rw [plain_releaseBuffer]
      rfl
  | beginFrame surface => exact absurd rfl (other surface)
  | submitBuffers batch =>
      simp only [Backend.reply, backs.driver_eq, plain, Driver.encoded, driver, submitBuffers]
      split
      · rfl
      · rfl
      · split <;> rfl
  | endFrame =>
      simp only [Backend.reply, backs.driver_eq]
      rfl

/-- One request is answered as by a busy device. -/
theorem Backs.answers_served (backs : Backs observed backend)
    (steady : world.driver.2.script.beginStatus = none) {request : Request UInt32 ν}
    {served : Served request.Answer (World (InFlight × State)) (Entry ο ν)}
    (answered : backend.serve request world = some served) {later : Dialogue UInt32}
    {last : UInt32}
    (rest : Answers world.driver.2.script.busyBegins served.world.driver.2.beginCalls later last) :
    Answers world.driver.2.script.busyBegins world.driver.2.beginCalls
      (driverCalls [⟨request, served.answer⟩] ++ later) last := by
  cases request with
  | call call =>
      cases answered
      cases call with
      | beginFrame surface =>
          simp only [Backend.reply, backs.driver_eq, plain, Driver.encoded, driver, beginFrame,
            State.record, steady] at rest ⊢
          by_cases still : world.driver.2.beginCalls + 1 ≤ world.driver.2.script.busyBegins
          · simp only [still, if_true] at rest ⊢
            exact .pending still rest
          · simp only [still, if_false] at rest ⊢
            exact .begins still rest
      | endFrame =>
          rw [backs.beginCalls_reply fun _ same => by cases same] at rest
          refine .ends ?_ rest
          simp only [Backend.reply, backs.driver_eq, plain, Driver.encoded, driver, endFrame]
          cases world.driver.2.script.endStatus with
          | none => exact .ok ()
          | some status => exact .failed status
      | _ =>
          rw [backs.beginCalls_reply fun _ same => by cases same] at rest
          exact .works trivial rest
  | store kind contents =>
      cases answered
      simp only [backs.driver_eq, plain_store] at rest
      exact rest
  | acquire lock =>
      obtain ⟨locks, _, rfl⟩ := Option.map_eq_some_iff.mp answered
      exact rest
  | abort => cases answered
  | _ =>
      cases answered
      exact rest

/-- Whatever a program asks for, it is answered as by a busy device. -/
theorem Backs.answers {α : Type} (backs : Backs observed backend)
    (steady : world.driver.2.script.beginStatus = none) {program rest : Program UInt32 ν α}
    {trace : List (Exchange UInt32 ν)} {journal : List (Entry ο ν)}
    (reached : backend.environment.Reaches program world trace journal rest after) :
    Answers world.driver.2.script.busyBegins world.driver.2.beginCalls (driverCalls trace)
      after.driver.2.beginCalls := by
  induction reached with
  | here => exact .nothing _
  | @step request resume world served trace journal rest after answered _ inductionHypothesis =>
      have same := backs.script_serve answered
      rw [same] at inductionHypothesis
      rw [← List.singleton_append, driverCalls_append]
      exact backs.answers_served steady answered (inductionHypothesis steady)

end

theorem toNat_add_ofNat {calls : UInt32} {count : Nat} (room : calls.toNat + count < UInt32.size) :
    (calls + UInt32.ofNat count).toNat = calls.toNat + count := by
  rw [UInt32.toNat_add, UInt32.toNat_ofNat_of_lt' (by omega)]
  exact Nat.mod_eq_of_lt room

theorem toNat_succ {calls : UInt32} (room : calls.toNat + 1 < UInt32.size) :
    (calls + 1).toNat = calls.toNat + 1 :=
  toNat_add_ofNat room

section

variable {busy calls last : UInt32} {said later : Dialogue UInt32} {surface : UInt32}

/-- A device has busy begins left for a number of attempts, or it can count one begin more than
all that are busy. -/
def Room (busy calls : UInt32) (attempts : Nat) : Prop :=
  attempts ≤ busy.toNat - calls.toNat ∨
    busy.toNat + 1 < UInt32.size ∧ calls.toNat + 1 < UInt32.size

theorem Room.mono {attempts fewer : Nat} (room : Room busy calls attempts)
    (least : fewer ≤ attempts) : Room busy calls fewer :=
  room.imp_left (Nat.le_trans least)

/-- As many begins as find a device busy are taken off its busy begins. -/
theorem Answers.of_busyBegins {count : Nat} (room : Room busy calls count)
    (answers : Answers busy calls (busyBegins surface count ++ later) last) :
    count ≤ busy.toNat - calls.toNat ∧ Answers busy (calls + UInt32.ofNat count) later last := by
  induction count generalizing calls with
  | zero => exact ⟨Nat.zero_le _, by simpa [busyBegins] using answers⟩
  | succ count inductionHypothesis =>
      rw [busyBegins, List.replicate_succ, List.cons_append] at answers
      cases answers with
      | works work _ => exact False.elim work
      | pending still rest =>
          have bound : busy.toNat < UInt32.size := busy.toNat_lt_size
          have next : (calls + 1).toNat = calls.toNat + 1 := by
            rw [Room] at room
            exact toNat_succ (by omega)
          have below : (calls + 1).toNat ≤ busy.toNat := UInt32.le_iff_toNat_le.mp still
          have left : Room busy (calls + 1) count := by
            rw [Room] at room ⊢
            omega
          obtain ⟨fewer, later⟩ := inductionHypothesis left rest
          refine ⟨by omega, ?_⟩
          rw [Nat.add_comm, UInt32.ofNat_add, ← UInt32.add_assoc]
          exact later

theorem Answers.returns (answers : Answers busy calls said last) {cause : Panic} :
    (⟨.endFrame, .panicked cause⟩ : Answered UInt32) ∉ said := by
  intro member
  induction answers with
  | nothing => cases member
  | pending _ _ inductionHypothesis | begins _ _ inductionHypothesis =>
      cases member with
      | tail _ later => exact inductionHypothesis later
  | works work _ inductionHypothesis =>
      cases member with
      | head => exact work
      | tail _ later => exact inductionHypothesis later
  | ends returned _ inductionHypothesis =>
      cases member with
      | head => cases returned
      | tail _ later => exact inductionHypothesis later

/-- Where nothing begins, nothing is counted. -/
theorem Answers.last_eq (answers : Answers busy calls said last)
    (none : ∀ answered ∈ said, ∀ surface, answered.call ≠ .beginFrame surface) : last = calls := by
  induction answers with
  | nothing => rfl
  | pending | begins => exact absurd rfl (none _ List.mem_cons_self _)
  | works _ _ inductionHypothesis | ends _ _ inductionHypothesis =>
      exact inductionHypothesis fun answered member => none answered (List.mem_cons_of_mem _ member)

variable {policy : RetryPolicy}

/-- A begin uses up all attempts of its policy, or it uses up the busy begins that are left and one
more. -/
theorem Answers.of_begin {dialogue : Dialogue UInt32} {result : Except Interruption Unit}
    (room : Room busy calls policy.maxAttempts.toNat)
    (spoken : BeginDialogue policy surface dialogue result)
    (answers : Answers busy calls (dialogue ++ later) last) :
    (policy.maxAttempts.toNat ≤ busy.toNat - calls.toNat ∧
      dialogue = busyBegins surface policy.maxAttempts.toNat ∧
        result = .error (.failure (.stillBusy policy.maxAttempts)) ∧
          Answers busy (calls + UInt32.ofNat policy.maxAttempts.toNat) later last) ∨
    (busy.toNat - calls.toNat < policy.maxAttempts.toNat ∧
      dialogue = busyBegins surface (busy.toNat - calls.toNat) ++ [⟨.beginFrame surface, .ok ()⟩] ∧
        result = .ok () ∧
          Answers busy (calls + UInt32.ofNat (busy.toNat - calls.toNat) + 1) later last) := by
  rcases spoken.cases_last with ⟨rfl, rfl⟩ | ⟨count, outcome, fewer, final, rfl, rfl⟩
  · obtain ⟨most, rest⟩ := answers.of_busyBegins room
    exact .inl ⟨most, rfl, rfl, rest⟩
  · rw [List.append_assoc] at answers
    obtain ⟨most, rest⟩ := answers.of_busyBegins (room.mono (Nat.le_of_lt fewer))
    cases rest with
    | pending => exact absurd rfl final
    | works work _ => exact False.elim work
    | begins past rest =>
        have all : count = busy.toNat - calls.toNat := by
          apply Nat.le_antisymm most
          apply Nat.le_of_not_lt
          intro less
          apply past
          have bound : busy.toNat < UInt32.size := busy.toNat_lt_size
          have counted : (calls + UInt32.ofNat count).toNat = calls.toNat + count :=
            toNat_add_ofNat (by omega)
          rw [UInt32.le_iff_toNat_le, toNat_succ (by omega), counted]
          omega
        subst all
        exact .inr ⟨fewer, rfl, rfl, rest⟩

/-- So does a submission, and there is nothing else to it if it uses up its attempts. -/
theorem Answers.of_submission {frame : Frame UInt32 ν} {result : Except Interruption Unit}
    (room : Room busy calls policy.maxAttempts.toNat)
    (spoken : SubmissionDialogue policy frame said result)
    (answers : Answers busy calls said last) :
    (policy.maxAttempts.toNat ≤ busy.toNat - calls.toNat ∧
      said = busyBegins frame.surface policy.maxAttempts.toNat ∧
        result = .error (.failure (.stillBusy policy.maxAttempts)) ∧
          last.toNat = calls.toNat + policy.maxAttempts.toNat) ∨
    (busy.toNat - calls.toNat < policy.maxAttempts.toNat ∧
      (∃ work outcome, (∀ answered ∈ work, answered.call.isWork) ∧
        said = busyBegins frame.surface (busy.toNat - calls.toNat) ++
          [⟨.beginFrame frame.surface, .ok ()⟩] ++ work ++ [⟨.endFrame, outcome⟩]) ∧
        last.toNat = calls.toNat + (busy.toNat - calls.toNat) + 1) := by
  have bound : busy.toNat < UInt32.size := busy.toNat_lt_size
  have limit : calls.toNat < UInt32.size := calls.toNat_lt_size
  cases spoken with
  | notBegun opening =>
      rw [← List.append_nil said] at answers
      rcases answers.of_begin room opening with ⟨most, rfl, same, rest⟩ | ⟨_, _, same, _⟩
      · cases rest
        exact .inl ⟨most, rfl, same, toNat_add_ofNat (by omega)⟩
      · cases same
  | @ended front work worked outcome _ opening inOrder _ =>
      rw [List.append_assoc] at answers
      rcases answers.of_begin room opening with ⟨_, _, same, _⟩ | ⟨fewer, rfl, _, rest⟩
      · cases same
      · have works := inOrder.works Frame.stages_work
        have counted : last = _ := rest.last_eq fun answered member surface same => by
          rcases List.mem_append.mp member with inside | closing
          · have work := works answered inside
            rw [same] at work
            exact work
          · rw [List.mem_singleton.mp closing] at same
            cases same
        have added : (calls + UInt32.ofNat (busy.toNat - calls.toNat)).toNat =
            calls.toNat + (busy.toNat - calls.toNat) := toNat_add_ofNat (by omega)
        refine .inr ⟨fewer, ⟨work, outcome, works, rfl⟩, ?_⟩
        rw [Room] at room
        rw [counted, toNat_succ (by omega), added]

end

end Recording

/-! ### How the busy begins are shared out -/

/-- The number of begins that submissions make of a device that is busy at its first `busy` begins,
if each of them may attempt `maximum`. -/
def beginsAfter (busy maximum submissions : Nat) : Nat :=
  if submissions ≤ busy / maximum then submissions * maximum
  else busy + submissions - busy / maximum

section

variable {busy maximum submissions : Nat}

/-- A submission that does not get through makes all its attempts. -/
theorem beginsAfter_of_lt (outlasted : submissions < busy / maximum) :
    maximum ≤ busy - beginsAfter busy maximum submissions ∧
      beginsAfter busy maximum (submissions + 1) =
        beginsAfter busy maximum submissions + maximum := by
  have most : (submissions + 1) * maximum ≤ busy :=
    Nat.le_trans (Nat.mul_le_mul_right maximum outlasted) (Nat.div_mul_le_self busy maximum)
  rw [Nat.succ_mul] at most
  rw [beginsAfter, beginsAfter, if_pos (Nat.le_of_lt outlasted), if_pos (by omega), Nat.succ_mul]
  omega

/-- The first one that gets through meets what they left over, and later ones meet nothing. -/
theorem left_of_le (through : busy / maximum ≤ submissions) :
    busy - beginsAfter busy maximum submissions =
      if submissions = busy / maximum then busy % maximum else 0 := by
  have split := Nat.div_add_mod' busy maximum
  split
  next same =>
    subst same
    rw [beginsAfter, if_pos (Nat.le_refl _)]
    omega
  next differs =>
    rw [beginsAfter, if_neg (by omega)]
    omega

/-- Each of them makes one begin more than it meets busy ones. -/
theorem beginsAfter_of_le (positive : 0 < maximum) (through : busy / maximum ≤ submissions) :
    busy - beginsAfter busy maximum submissions < maximum ∧
      beginsAfter busy maximum (submissions + 1) = beginsAfter busy maximum submissions +
        (busy - beginsAfter busy maximum submissions) + 1 := by
  have split := Nat.div_add_mod' busy maximum
  rw [left_of_le through]
  split
  next same =>
    subst same
    refine ⟨Nat.mod_lt busy positive, ?_⟩
    rw [beginsAfter, beginsAfter, if_pos (Nat.le_refl _), if_neg (by omega)]
    omega
  next differs =>
    refine ⟨positive, ?_⟩
    rw [beginsAfter, beginsAfter, if_neg (by omega), if_neg (by omega)]
    omega

theorem beginsAfter_mono {more : Nat} (positive : 0 < maximum) (least : submissions ≤ more) :
    beginsAfter busy maximum submissions ≤ beginsAfter busy maximum more := by
  induction least with
  | refl => exact Nat.le_refl _
  | @step more _ inductionHypothesis =>
      apply Nat.le_trans inductionHypothesis
      rw [Nat.succ_eq_add_one]
      rcases Nat.lt_or_ge more (busy / maximum) with outlasted | through
      · rw [(beginsAfter_of_lt outlasted).2]
        exact Nat.le_add_right _ _
      · rw [(beginsAfter_of_le positive through).2, Nat.add_assoc]
        exact Nat.le_add_right _ _

end

variable {σ S : Type}

/-- The submission only attempts to begin, a number of times, and the device stays busy. -/
def Backend.TimesOut (backend : Backend S σ ο) (session : Session) (frame : Frame S ν)
    (world : World σ) (attempts : UInt32) : Prop :=
  ∃ trace journal after,
    backend.environment.Reaches (session.perform (.submit frame)) world trace journal
        (.done (.submitted (.error (.failure (.stillBusy attempts))), session)) after ∧
      driverCalls trace = busyBegins frame.surface attempts.toNat

/-- The submission begins behind a number of begins that find the device busy, works on the frame
and ends it. -/
def Backend.BeginsBehind (backend : Backend S σ ο) (session : Session) (frame : Frame S ν)
    (world : World σ) (busy : Nat) : Prop :=
  ∃ trace journal result last after work outcome,
    backend.environment.Reaches (session.perform (.submit frame)) world trace journal
        (.done (.submitted result, last)) after ∧
      (∀ answered ∈ work, answered.call.isWork) ∧
        driverCalls trace =
          busyBegins frame.surface busy ++ [⟨.beginFrame frame.surface, .ok ()⟩] ++ work ++
            [⟨.endFrame, outcome⟩]

namespace Recording

/-- A session and its device behind a number of submissions. -/
structure Counted (policy : RetryPolicy) (busy : UInt32) (submissions : Nat) (session : Session)
    (world : World (InFlight × State)) : Prop where
  free : world.locks.isFree session.lock = true
  retry : session.retry = policy
  steady : world.driver.2.script.beginStatus = none
  busyBegins : world.driver.2.script.busyBegins = busy
  calls : world.driver.2.beginCalls.toNat =
    beginsAfter busy.toNat policy.maxAttempts.toNat submissions

variable {observed : DeviceLock} {backend : Backend UInt32 (InFlight × State) ο}
  {policy : RetryPolicy} {busy : UInt32} {submissions : Nat} {session : Session}
  {world : World (InFlight × State)}

theorem Counted.room (counted : Counted policy busy submissions session world)
    (below : beginsAfter busy.toNat policy.maxAttempts.toNat (submissions + 1) < UInt32.size) :
    Room busy world.driver.2.beginCalls policy.maxAttempts.toNat := by
  have positive : 0 < policy.maxAttempts.toNat := UInt32.lt_iff_toNat_lt.mp policy.positive
  rw [Room, counted.calls]
  rcases Nat.lt_or_ge submissions (busy.toNat / policy.maxAttempts.toNat) with outlasted | through
  · exact .inl (beginsAfter_of_lt outlasted).1
  · have next := (beginsAfter_of_le positive through).2
    omega

theorem Session.counting_retry (session : Session) (result : Except Interruption Unit) :
    (session.counting result).retry = session.retry := by
  cases result <;> rfl

/-- What becomes of the next submission depends on how many came before. -/
theorem Counted.submit (backs : Backs observed backend)
    (counted : Counted policy busy submissions session world)
    (below : beginsAfter busy.toNat policy.maxAttempts.toNat (submissions + 1) < UInt32.size)
    (frame : Frame UInt32 ν) :
    ∃ trace journal result next after,
      backend.environment.Reaches (session.perform (.submit frame)) world trace journal
          (.done (.submitted result, next)) after ∧
        Counted policy busy (submissions + 1) next after ∧
          (submissions < busy.toNat / policy.maxAttempts.toNat →
            backend.TimesOut session frame world policy.maxAttempts) ∧
          (busy.toNat / policy.maxAttempts.toNat ≤ submissions →
            backend.BeginsBehind session frame world
              (busy.toNat - beginsAfter busy.toNat policy.maxAttempts.toNat submissions)) := by
  have positive : 0 < policy.maxAttempts.toNat := UInt32.lt_iff_toNat_lt.mp policy.positive
  have room := counted.room below
  have ordered : (session.perform (.submit frame)).Obeys (framing session.lock) _ .idle :=
    perform_framed
  obtain ⟨trace, journal, rest, after, reached, stopped⟩ :=
    ordered.exists_stop_framed (Phase.inStep_idle counted.free)
  have heard := perform_submit_speaks.of_reaches_recording reached
  have answers := backs.answers counted.steady reached
  rw [counted.busyBegins] at answers
  obtain ⟨framed, inStep, script, _⟩ := ordered.of_reaches
    (backs.keepsStep_retaining session.lock world)
    ⟨Phase.inStep_idle counted.free, rfl, fun _ _ => rfl⟩ reached
  rcases stopped with ⟨done, rfl⟩ | ⟨resume, rfl⟩
  · obtain ⟨result, spoken, rfl⟩ := Program.obeys_done.mp heard
    obtain ⟨idle, lock⟩ := Program.obeys_done.mp framed
    rw [idle] at inStep
    have next (calls : after.driver.2.beginCalls.toNat =
        beginsAfter busy.toNat policy.maxAttempts.toNat (submissions + 1)) :
        Counted policy busy (submissions + 1) (session.counting result) after :=
      { free := by
          rw [lock]
          exact inStep.isFree_of_idle
        retry := (Session.counting_retry session result).trans counted.retry
        steady := by rw [script, counted.steady]
        busyBegins := by rw [script, counted.busyBegins]
        calls }
    rw [counted.retry] at spoken
    refine ⟨trace, journal, result, session.counting result, after, reached, ?_⟩
    rcases answers.of_submission room spoken with ⟨most, said, rfl, calls⟩ | ⟨fewer, worked, calls⟩
    · rw [counted.calls] at most calls
      rcases Nat.lt_or_ge submissions (busy.toNat / policy.maxAttempts.toNat) with
        outlasted | through
      · refine ⟨next (calls.trans (beginsAfter_of_lt outlasted).2.symm), ?_, ?_⟩
        · exact fun _ => ⟨trace, journal, after, reached, said⟩
        · exact fun through => absurd outlasted (Nat.not_lt_of_le through)
      · exact absurd (beginsAfter_of_le positive through).1 (Nat.not_lt_of_le most)
    · rw [counted.calls] at fewer worked calls
      obtain ⟨work, outcome, works, said⟩ := worked
      rcases Nat.lt_or_ge submissions (busy.toNat / policy.maxAttempts.toNat) with
        outlasted | through
      · exact absurd (beginsAfter_of_lt outlasted).1 (Nat.not_le_of_lt fewer)
      · refine ⟨next (calls.trans (beginsAfter_of_le positive through).2.symm), ?_, ?_⟩
        · exact fun outlasted => absurd outlasted (Nat.not_lt_of_le through)
        · exact fun _ =>
            ⟨trace, journal, result, _, after, work, outcome, reached, works, said⟩
  · obtain ⟨front, work, first, second, _, _, same⟩ := (Program.obeys_ask.mp heard).1
    rw [same] at answers
    exact absurd (List.mem_append_right _ (List.mem_singleton_self _)) answers.returns

theorem reaches_performAll_cons {W ε : Type} {environment : Environment S ν W ε}
    {session next last : Session} {step : Session.Step S ν} {steps : List (Session.Step S ν)}
    {result : Session.Result} {results : List Session.Result} {world between after : W}
    {front back : List (Exchange S ν)} {early late : List ε}
    (one : environment.Reaches (session.perform step) world front early (.done (result, next))
      between)
    (others : environment.Reaches (next.performAll steps) between back late
      (.done (results, last)) after) :
    environment.Reaches (session.performAll (step :: steps)) world (front ++ back) (early ++ late)
      (.done (result :: results, last)) after :=
  one.bind.trans others.bind

/-- However many submissions are made, their begins are counted in the end. -/
theorem Counted.run (backs : Backs observed backend)
    (counted : Counted policy busy submissions session world) (frames : List (Frame UInt32 ν))
    (below : beginsAfter busy.toNat policy.maxAttempts.toNat (submissions + frames.length) <
      UInt32.size) :
    ∃ before, backend.run (session.performAll (frames.map .submit)) world = some before ∧
      Counted policy busy (submissions + frames.length) before.value.2 before.world := by
  have positive : 0 < policy.maxAttempts.toNat := UInt32.lt_iff_toNat_lt.mp policy.positive
  induction frames generalizing submissions session world with
  | nil => exact ⟨⟨([], session), world, []⟩, rfl, counted⟩
  | cons frame frames inductionHypothesis =>
      rw [List.length_cons, Nat.add_comm frames.length, ← Nat.add_assoc] at below ⊢
      obtain ⟨trace, journal, result, next, between, reached, further, _⟩ := counted.submit backs
        (Nat.lt_of_le_of_lt (beginsAfter_mono positive (Nat.le_add_right _ _)) below) frame
      obtain ⟨before, ran, last⟩ := inductionHypothesis further below
      obtain ⟨others, later⟩ := Environment.run_eq_some_iff.mp ran
      exact ⟨⟨(.submitted result :: before.value.1, before.value.2), before.world, _⟩,
        Environment.run_eq_some_iff.mpr ⟨_, reaches_performAll_cons reached later⟩, last⟩

/-- A run of submissions and the busy begins of its device. -/
structure SharesBusyBegins (backend : Backend UInt32 (InFlight × State) ο) (session : Session)
    (frames : List (Frame UInt32 ν)) (world : World (InFlight × State)) (busy maximum : UInt32) :
    Prop where
  counts {front back : List (Frame UInt32 ν)} : frames = front ++ back →
    ∃ before, backend.run (session.performAll (front.map .submit)) world = some before ∧
      before.world.driver.2.beginCalls.toNat =
        beginsAfter busy.toNat maximum.toNat front.length
  /-- The first submissions run out of attempts. -/
  outlasted {front back : List (Frame UInt32 ν)} {frame : Frame UInt32 ν} {before} :
    frames = front ++ frame :: back →
    backend.run (session.performAll (front.map .submit)) world = some before →
    front.length < busy.toNat / maximum.toNat →
    backend.TimesOut before.value.2 frame before.world maximum
  through {front back : List (Frame UInt32 ν)} {frame : Frame UInt32 ν} {before} :
    frames = front ++ frame :: back →
    backend.run (session.performAll (front.map .submit)) world = some before →
    front.length = busy.toNat / maximum.toNat →
    backend.BeginsBehind before.value.2 frame before.world (busy.toNat % maximum.toNat)
  afterwards {front back : List (Frame UInt32 ν)} {frame : Frame UInt32 ν} {before} :
    frames = front ++ frame :: back →
    backend.run (session.performAll (front.map .submit)) world = some before →
    busy.toNat / maximum.toNat < front.length →
    backend.BeginsBehind before.value.2 frame before.world 0

end Recording

/-- As long as the count of begins does not run over, submissions that keep one policy share the
busy begins of a device out among them, whatever becomes of the frames that begin. -/
theorem busy_begins_are_shared_out {observed : DeviceLock}
    {backend : Backend UInt32 (Recording.InFlight × Recording.State) ο}
    (backs : Recording.Backs observed backend) {session : Session}
    {frames : List (Frame UInt32 ν)} {world : World (Recording.InFlight × Recording.State)}
    (free : world.locks.isFree session.lock = true)
    (steady : world.driver.2.script.beginStatus = none)
    {busy : UInt32} (busyBegins : world.driver.2.script.busyBegins = busy)
    (fresh : world.driver.2.beginCalls = 0)
    (below : beginsAfter busy.toNat session.retry.maxAttempts.toNat frames.length < UInt32.size) :
    Recording.SharesBusyBegins backend session frames world busy session.retry.maxAttempts := by
  have positive : 0 < session.retry.maxAttempts.toNat :=
    UInt32.lt_iff_toNat_lt.mp session.retry.positive
  have start : Recording.Counted session.retry busy 0 session world :=
    { free, retry := rfl, steady, busyBegins, calls := by simp [fresh, beginsAfter] }
  -- every part of the run begins no more than the whole
  have part {front back : List (Frame UInt32 ν)} (split : frames = front ++ back) :
      beginsAfter busy.toNat session.retry.maxAttempts.toNat (0 + front.length) < UInt32.size := by
    rw [split, List.length_append] at below
    exact Nat.lt_of_le_of_lt (beginsAfter_mono positive (by omega)) below
  have next {front back : List (Frame UInt32 ν)} {frame : Frame UInt32 ν} {before}
      (split : frames = front ++ frame :: back)
      (ran : backend.run (session.performAll (front.map .submit)) world = some before) :
      (front.length < busy.toNat / session.retry.maxAttempts.toNat →
        backend.TimesOut before.value.2 frame before.world session.retry.maxAttempts) ∧
      (busy.toNat / session.retry.maxAttempts.toNat ≤ front.length →
        backend.BeginsBehind before.value.2 frame before.world
          (busy.toNat - beginsAfter busy.toNat session.retry.maxAttempts.toNat front.length)) := by
    obtain ⟨again, same, counted⟩ := start.run backs front (part split)
    obtain rfl := Option.some.inj (ran.symm.trans same)
    rw [Nat.zero_add] at counted
    have further : frames = (front ++ [frame]) ++ back := by simp [split]
    have room := part further
    rw [Nat.zero_add, List.length_append] at room
    obtain ⟨_, _, _, _, _, _, _, shared⟩ := counted.submit backs room frame
    exact shared
  constructor
  · intro front back split
    obtain ⟨before, ran, counted⟩ := start.run backs front (part split)
    rw [Nat.zero_add] at counted
    exact ⟨before, ran, counted.calls⟩
  · intro front back frame before split ran few
    exact (next split ran).1 few
  · intro front back frame before split ran same
    have begins := (next split ran).2 (Nat.le_of_eq same.symm)
    rw [left_of_le (Nat.le_of_eq same.symm), if_pos same] at begins
    exact begins
  · intro front back frame before split ran many
    have begins := (next split ran).2 (Nat.le_of_lt many)
    rw [left_of_le (Nat.le_of_lt many), if_neg (Nat.ne_of_gt many)] at begins
    exact begins

/-- Two submissions that get nowhere, one whose strategy panics, and one that is decoded. -/
def Frame.queue : List (Frame UInt32 Empty) :=
  [Frame.complete, Frame.complete,
    { surface := 3, pictureParameters := [1], assembler := .panic .outOfRange }, Frame.complete]

/-- Of five busy begins the third submission meets one, and panics behind it. -/
theorem third_submission_gets_through :
    Recording.Backs (.mutex 0) Recording.observedContext ∧
      ({} : Locks).isFree (.mutex 0) = true ∧ beginsAfter 5 2 4 < UInt32.size ∧
        ∃ before,
          Recording.observedContext.run
              (Session.performAll
                { format := .textureArray, lock := .mutex 0
                  retry := { maxAttempts := 2, backoff := 0 } }
                (([Frame.complete, Frame.complete] : List (Frame UInt32 Empty)).map .submit))
              { driver := (none, { script := { busyBegins := 5 } }) } = some before ∧
            before.world.driver.2.beginCalls.toNat = 4 ∧
              Recording.observedContext.BeginsBehind before.value.2
                { surface := 3, pictureParameters := [1]
                  assembler := (.panic .outOfRange : Assembler Empty) } before.world 1 := by
  have backs : Recording.Backs (.mutex 0) Recording.observedContext := .textureArray _ _
  have shares : Recording.SharesBusyBegins Recording.observedContext
      { format := .textureArray, lock := .mutex 0, retry := { maxAttempts := 2, backoff := 0 } }
      Frame.queue { driver := (none, { script := { busyBegins := 5 } }) } 5 2 :=
    busy_begins_are_shared_out backs rfl rfl rfl rfl (by decide)
  have split : Frame.queue = [Frame.complete, Frame.complete] ++ Frame.queue.drop 2 := rfl
  obtain ⟨before, ran, calls⟩ := shares.counts split
  exact ⟨backs, rfl, by decide, before, ran, calls, shares.through rfl ran rfl⟩

end HardwareDecode
