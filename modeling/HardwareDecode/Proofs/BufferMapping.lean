/-
Module: HardwareDecode.Proofs.BufferMapping
Purpose: The buffers a session borrows from its driver.  At most one is lent at any time, it goes
  back with the very next call, and nothing else is called while it is lent.
Main exports: mapping, commit_mapped, performAll_mapped, Mapped, Mapped.balance, MappingDiscipline,
  lent_buffers_are_returned
-/
import HardwareDecode.Proofs.FirstFailure
import HardwareDecode.Proofs.Framing
import HardwareDecode.Proofs.Keeping

namespace HardwareDecode

variable {S ν : Type}

/-- What may be asked for while the buffer of a kind is lent: it is written, messages are left, and
it is given back. -/
def Request.handlesLoan (kind : BufferKind) : Request S ν → Prop
  | .store written _ => written = kind
  | .call (.releaseBuffer released) => released = kind
  | .log _ => True
  | _ => False

/-- Nothing is written or given back that is not lent. -/
def Request.needsNoLoan : Request S ν → Prop
  | .store _ _ | .call (.releaseBuffer _) => False
  | _ => True

/-- The order of loans.  The state is the kind of the buffer that is lent, if there is one. -/
def mapping : Protocol S ν (Option BufferKind) where
  allows
    | none, request => request.needsNoLoan
    | some kind, request => request.handlesLoan kind
  next
    | _, .call (.getBuffer kind), .ok _ => some kind
    | _, .call (.releaseBuffer _), _ => none
    | lent, _, _ => lent

open HardwareDecode.Action

theorem mapping_ignoresLogs : (mapping : Protocol S ν _).IgnoresLogs where
  allowed lent _ := by cases lent <;> trivial
  kept _ _ _ := rfl

/-! ### Sessions keep to the order of loans -/

theorem fill_mapped {kind : BufferKind} {payload lent : Bytes} {macroblocks : UInt32} :
    (fill kind payload lent macroblocks : Action S ν Descriptor).run.Obeys mapping
      (fun after result => after = some kind ∧ unwinds result = false) (some kind) := by
  unfold fill
  split
  · refine obeys_bind.mpr (obeys_store.mpr ⟨rfl, fun _ _ => ?_⟩)
    exact obeys_bind.mpr (mapping_ignoresLogs.obeys_log (obeys_pure.mpr ⟨rfl, rfl⟩))
  · exact obeys_bind.mpr (mapping_ignoresLogs.obeys_log (obeys_fail.mpr ⟨rfl, rfl⟩))

/-- Whatever a commit is answered, it leaves no buffer lent. -/
theorem commit_mapped {kind : BufferKind} {payload : Bytes} {macroblocks : UInt32} :
    (commit kind payload macroblocks : Action S ν Descriptor).run.Obeys mapping
      (fun after _ => after = none) none := by
  rw [commit, obeys_bind, obeys_call]
  refine ⟨trivial, fun got _ => ?_⟩
  cases got with
  | failed status => exact obeys_bind.mpr (mapping_ignoresLogs.obeys_log (obeys_fail.mpr rfl))
  | panicked cause => rfl
  | ok lent =>
      apply obeys_bind.mpr
      apply obeys_attempt.mpr
      apply fill_mapped.weaken
      rintro _ filled ⟨rfl, returns⟩
      rcases filled with (error | cause) | descriptor
      · refine obeys_bind.mpr (obeys_call.mpr ⟨rfl, fun released _ => ?_⟩)
        cases released with
        | ok _ => exact obeys_fail.mpr rfl
        | failed status =>
            exact obeys_bind.mpr (mapping_ignoresLogs.obeys_log (obeys_fail.mpr rfl))
        | panicked cause => rfl
      · cases returns
      · refine obeys_bind.mpr (obeys_call.mpr ⟨rfl, fun released _ => ?_⟩)
        cases released with
        | ok _ => exact obeys_pure.mpr rfl
        | failed status =>
            exact obeys_bind.mpr (mapping_ignoresLogs.obeys_log (obeys_fail.mpr rfl))
        | panicked cause => rfl

theorem mapping_keepsWork :
    (mapping : Protocol S ν (Option BufferKind)).KeepsWork fun lent => lent = none where
  commits := by
    rintro _ kind payload macroblocks rfl
    exact commit_mapped
  others := by
    rintro request alone _ rfl
    rcases request with (_ | _ | _ | _ | _) | _ | _ | _ | _ | _ | _ | _ | _ <;>
      first | exact False.elim alone | exact ⟨trivial, fun _ => rfl⟩

theorem begin_mapped {policy : RetryPolicy} {lock : DeviceLock} {surface : S} :
    (policy.begin lock surface : Action S ν Unit).run.Obeys mapping (fun after _ => after = none)
      none := by
  apply begin_asks.obeys
  · intro request opening
    rcases request with (_ | _) | _ | _ | _ | _ | _ | _ | _ | _ <;> trivial
  · intro request opening answer
    rcases request with (_ | _) | _ | _ | _ | _ | _ | _ | _ | _ <;>
      first | exact False.elim opening | rfl

theorem submit_mapped {session : Session} {frame : Frame S ν} :
    (session.submit frame).run.Obeys mapping (fun after _ => after = none) none := by
  apply submit_obeys mapping_ignoresLogs begin_mapped
  · rintro _ _ rfl
    rfl
  · rintro _ rfl
    apply (execute_keeps mapping_keepsWork rfl).weaken
    rintro _ executed rfl
    exact {
      ended := trivial
      freed := fun _ _ => ⟨trivial, rfl⟩
      aborted := fun _ _ => trivial }

/-- Between its calls to the driver a session has nothing lent but in the middle of a commit. -/
theorem performAll_mapped {session : Session} {steps : List (Session.Step S ν)} :
    (session.performAll steps).Obeys mapping (fun after _ => after = none) none := by
  apply performAll_keeps
  · rintro frame _ session _ rfl
    exact submit_mapped
  · rintro query _ rfl
    exact ⟨trivial, fun _ => rfl⟩
  · rfl

/-! ### Dialogues in which loans are returned -/

namespace Answered

/-- A buffer is lent. -/
def lends : Answered S → Bool
  | ⟨.getBuffer _, .ok _⟩ => true
  | _ => false

/-- A buffer is given back. -/
def returns : Answered S → Bool
  | ⟨.releaseBuffer _, _⟩ => true
  | _ => false

end Answered

/-- `Mapped said lent`: every loan in `said` was returned by the next call, but for the last one if
it is still `lent`. -/
inductive Mapped : Dialogue S → Option BufferKind → Prop where
  | start : Mapped [] none
  | lends {said : Dialogue S} (before : Mapped said none) (kind : BufferKind) (bytes : Bytes) :
      Mapped (said ++ [⟨.getBuffer kind, .ok bytes⟩]) (some kind)
  | returns {said : Dialogue S} {kind : BufferKind} (before : Mapped said (some kind))
      (outcome : Outcome Unit) : Mapped (said ++ [⟨.releaseBuffer kind, outcome⟩]) none
  | other {said : Dialogue S} (before : Mapped said none) {answered : Answered S}
      (keeps : answered.lends = false) (holds : answered.returns = false) :
      Mapped (said ++ [answered]) none

namespace Mapped

variable {said front back : Dialogue S} {lent : Option BufferKind} {answered : Answered S}

/-- The last call of a dialogue is a loan, its return, or has nothing to do with loans. -/
theorem cases_last (mapped : Mapped (said ++ [answered]) lent) :
    (∃ kind bytes, answered = ⟨.getBuffer kind, .ok bytes⟩ ∧ lent = some kind ∧ Mapped said none) ∨
      (∃ kind outcome, answered = ⟨.releaseBuffer kind, outcome⟩ ∧ lent = none ∧
        Mapped said (some kind)) ∨
      (answered.lends = false ∧ answered.returns = false ∧ lent = none ∧ Mapped said none) := by
  generalize whole : said ++ [answered] = dialogue at mapped
  cases mapped with
  | start => simp at whole
  | lends before kind bytes =>
      obtain ⟨rfl, same⟩ := List.append_inj' whole rfl
      exact .inl ⟨kind, bytes, List.singleton_inj.mp same, rfl, before⟩
  | @returns _ kind before outcome =>
      obtain ⟨rfl, same⟩ := List.append_inj' whole rfl
      exact .inr (.inl ⟨kind, outcome, List.singleton_inj.mp same, rfl, before⟩)
  | other before keeps holds =>
      obtain ⟨rfl, same⟩ := List.append_inj' whole rfl
      obtain rfl := List.singleton_inj.mp same
      exact .inr (.inr ⟨keeps, holds, rfl, before⟩)

/-- So is every start of a dialogue. -/
theorem of_prefix (mapped : Mapped said lent) (start : front <+: said) :
    ∃ earlier, Mapped front earlier := by
  induction mapped with
  | start =>
      rw [List.prefix_nil.mp start]
      exact ⟨none, .start⟩
  | lends before kind bytes inductionHypothesis =>
      rcases List.prefix_concat_iff.mp start with rfl | earlier
      · exact ⟨_, .lends before kind bytes⟩
      · exact inductionHypothesis earlier
  | returns before outcome inductionHypothesis =>
      rcases List.prefix_concat_iff.mp start with rfl | earlier
      · exact ⟨_, .returns before outcome⟩
      · exact inductionHypothesis earlier
  | other before keeps holds inductionHypothesis =>
      rcases List.prefix_concat_iff.mp start with rfl | earlier
      · exact ⟨_, .other before keeps holds⟩
      · exact inductionHypothesis earlier

/-- A call in the middle of a dialogue is the last one of a start of it. -/
theorem of_cons (mapped : Mapped (front ++ answered :: back) lent) :
    ∃ earlier, Mapped (front ++ [answered]) earlier :=
  mapped.of_prefix ⟨back, by simp⟩

/-- Loans and returns balance, but for the loan that is not returned yet. -/
theorem balance (mapped : Mapped said lent) :
    said.countP Answered.lends = said.countP Answered.returns + lent.toList.length := by
  induction mapped with
  | start => rfl
  | lends before kind bytes inductionHypothesis =>
      simp only [List.countP_append, inductionHypothesis]
      rfl
  | returns before outcome inductionHypothesis =>
      simp only [List.countP_append, inductionHypothesis]
      rfl
  | other before keeps holds inductionHypothesis =>
      simp [List.countP_append, inductionHypothesis, keeps, holds]

/-- A loan that is not returned yet was made by the last call. -/
theorem exists_last {kind : BufferKind} (mapped : Mapped said (some kind)) :
    ∃ earlier bytes, said = earlier ++ [⟨.getBuffer kind, .ok bytes⟩] := by
  cases mapped with
  | @lends earlier _ _ bytes => exact ⟨earlier, bytes, rfl⟩

/-- Where nothing is lent, loans and returns balance. -/
theorem balance_of_none (mapped : Mapped said none) :
    said.countP Answered.lends = said.countP Answered.returns :=
  mapped.balance

/-- A program that keeps to the order of loans has a dialogue in which loans are returned. -/
theorem of_follows {α : Type} {ends : Option BufferKind → α → Prop} {program rest : Program S ν α}
    {trace : List (Exchange S ν)} (mapped : Mapped said lent)
    (obeys : program.Obeys mapping ends lent) (followed : program.Follows trace rest) :
    Mapped (said ++ driverCalls trace) (mapping.after lent trace) := by
  induction followed generalizing said lent with
  | here => simpa [driverCalls, Protocol.after] using mapped
  | @step request resume answer trace rest _ inductionHypothesis =>
      obtain ⟨allowed, later⟩ := Program.obeys_ask.mp obeys
      have rest := later answer trivial
      cases request with
      | call call =>
          have spoken :
              Mapped (said ++ [⟨call, answer⟩]) (mapping.next lent (.call call) answer) := by
            cases lent with
            | none =>
                cases call with
                | getBuffer kind =>
                    cases answer with
                    | ok bytes => exact .lends mapped kind bytes
                    | failed _ | panicked _ => exact .other mapped rfl rfl
                | releaseBuffer kind => exact False.elim allowed
                | beginFrame _ | submitBuffers _ | endFrame => exact .other mapped rfl rfl
            | some kind =>
                cases call with
                | releaseBuffer released =>
                    obtain rfl : released = kind := allowed
                    exact .returns mapped answer
                | getBuffer _ | beginFrame _ | submitBuffers _ | endFrame =>
                    exact False.elim allowed
          have last := inductionHypothesis spoken rest
          rw [List.append_assoc] at last
          exact last
      | _ => exact inductionHypothesis mapped rest

end Mapped

/-- Calls that begin, execute or end a frame. -/
def Call.drivesFrame : Call S → Prop
  | .beginFrame _ | .submitBuffers _ | .endFrame => True
  | .getBuffer _ | .releaseBuffer _ => False

/-- Buffers are lent one at a time and returned at once. -/
structure MappingDiscipline (said : Dialogue S) : Prop where
  balanced : ∀ {front}, front <+: said →
    front.countP Answered.lends = front.countP Answered.returns ∨
      front.countP Answered.lends = front.countP Answered.returns + 1
  /-- What is given back was lent by the call before. -/
  lent : ∀ {front kind outcome back}, said = front ++ ⟨.releaseBuffer kind, outcome⟩ :: back →
    ∃ earlier bytes, front = earlier ++ [⟨.getBuffer kind, .ok bytes⟩]
  /-- What was lent is given back by the next call. -/
  returned : ∀ {front kind bytes next back},
    said = front ++ ⟨.getBuffer kind, .ok bytes⟩ :: next :: back → next.call = .releaseBuffer kind
  unmapped : ∀ {front answered back}, said = front ++ answered :: back →
    answered.call.drivesFrame → front.countP Answered.lends = front.countP Answered.returns
  /-- What was not lent is not given back. -/
  refused : ∀ {front kind outcome next back},
    said = front ++ ⟨.getBuffer kind, outcome⟩ :: next :: back →
      (∀ bytes, outcome ≠ .ok bytes) → next.returns = false

theorem Mapped.discipline {said : Dialogue S} {lent : Option BufferKind}
    (mapped : Mapped said lent) : MappingDiscipline said := by
  constructor
  · intro front start
    obtain ⟨earlier, mapped⟩ := mapped.of_prefix start
    have balance := mapped.balance
    cases earlier with
    | none => exact .inl balance
    | some kind => exact .inr balance
  · rintro front kind outcome back rfl
    obtain ⟨_, upTo⟩ := mapped.of_cons
    rcases upTo.cases_last with ⟨_, _, same, _⟩ | ⟨_, _, same, _, before⟩ | ⟨_, keeps, _⟩
    · cases same
    · cases same
      exact before.exists_last
    · cases keeps
  · rintro front kind bytes next back rfl
    rw [List.append_cons] at mapped
    obtain ⟨_, upTo⟩ := mapped.of_cons
    -- The loan is still open before the next call, so that this call can only return it.
    have before : ∀ {state}, Mapped (front ++ [⟨.getBuffer kind, .ok bytes⟩]) state →
        state = some kind := by
      intro state before
      rcases before.cases_last with ⟨_, _, same, lent, _⟩ | ⟨_, _, same, _⟩ | ⟨keeps, _⟩
      · cases same
        exact lent
      · cases same
      · cases keeps
    rcases upTo.cases_last with ⟨_, _, _, _, early⟩ | ⟨returned, _, rfl, _, early⟩ |
      ⟨_, _, _, early⟩
    · cases before early
    · cases before early
      rfl
    · cases before early
  · rintro front ⟨call, outcome⟩ back rfl drives
    obtain ⟨_, upTo⟩ := mapped.of_cons
    rcases upTo.cases_last with ⟨_, _, same, _⟩ | ⟨_, _, same, _⟩ | ⟨_, _, _, before⟩
    · cases same
      exact False.elim drives
    · cases same
      exact False.elim drives
    · exact before.balance_of_none
  · rintro front kind outcome next back rfl failed
    rw [List.append_cons] at mapped
    obtain ⟨_, upTo⟩ := mapped.of_cons
    rcases upTo.cases_last with ⟨_, _, rfl, _⟩ | ⟨_, _, _, _, before⟩ | ⟨_, keeps, _⟩
    · rfl
    · obtain ⟨earlier, bytes, same⟩ := before.exists_last
      cases List.singleton_inj.mp (List.append_inj' same rfl).2
      exact absurd rfl (failed bytes)
    · exact keeps

/-- However its driver answers, and wherever a session stands, its buffers were lent one at a time
and returned at once.  As long as one is lent, the session asks for nothing but to write it and to
give it back. -/
theorem lent_buffers_are_returned {session : Session} {steps : List (Session.Step S ν)}
    {trace : List (Exchange S ν)} {rest : Program S ν (List Session.Result × Session)}
    (followed : (session.performAll steps).Follows trace rest) :
    MappingDiscipline (driverCalls trace) ∧
      ((driverCalls trace).countP Answered.lends = (driverCalls trace).countP Answered.returns ∨
        ∃ earlier kind bytes request resume,
          driverCalls trace = earlier ++ [⟨.getBuffer kind, .ok bytes⟩] ∧
            rest = .ask request resume ∧ request.handlesLoan kind) := by
  have mapped : Mapped ([] ++ driverCalls trace) _ :=
    Mapped.start.of_follows performAll_mapped followed
  have obeys := performAll_mapped.of_follows (fun _ _ => trivial) followed
  rw [List.nil_append] at mapped
  refine ⟨mapped.discipline, ?_⟩
  generalize mapping.after none trace = lent at mapped obeys
  cases lent with
  | none => exact .inl mapped.balance_of_none
  | some kind =>
      obtain ⟨earlier, bytes, last⟩ := mapped.exists_last
      cases rest with
      | done result => cases Program.obeys_done.mp obeys
      | ask request resume =>
          exact .inr ⟨earlier, kind, bytes, request, resume, last, rfl,
            (Program.obeys_ask.mp obeys).1⟩

/-- Whether a request gives a buffer back. -/
def Request.givesBack : Request S ν → Bool
  | .call (.releaseBuffer _) => true
  | _ => false

/-- A payload does not fit, and its buffer is about to be given back. -/
theorem oversized_payload_is_returned :
    ∃ trace request resume,
      request.givesBack = true ∧
        (Session.performAll { format := .textureArray, lock := .mutex 0 }
          [.submit
            { surface := ({ name := "s", slice := 0 } : NamedSurface)
              pictureParameters := [1, 2, 3]
              assembler := (.finish : Assembler Empty) }]).Follows trace
            (.ask request resume) ∧
          MappingDiscipline (driverCalls trace) ∧
            ((driverCalls trace).countP Answered.lends =
                (driverCalls trace).countP Answered.returns ∨
              ∃ earlier kind bytes next later,
                driverCalls trace = earlier ++ [⟨.getBuffer kind, .ok bytes⟩] ∧
                  Program.ask request resume = .ask next later ∧ next.handlesLoan kind) := by
  have comes : Scripted.context.environment.comesTo Request.givesBack
      (Session.performAll { format := .textureArray, lock := .mutex 0 }
        [.submit
          { surface := { name := "s", slice := 0 }
            pictureParameters := [1, 2, 3]
            assembler := (.finish : Assembler Empty) }])
      { driver := { script := { capacity := 2 } } } = true := by
    decide +kernel
  obtain ⟨trace, journal, request, resume, after, givesBack, reached⟩ :=
    Environment.comesTo_iff.mp comes
  have followed := reached.follows
  exact ⟨trace, request, resume, givesBack, followed, lent_buffers_are_returned followed⟩

end HardwareDecode
