/-
Module: HardwareDecode.Crew.Progress
Purpose: How far a crew comes, exchange by exchange, with each exchange marked by the worker who
  made it.
Main exports: Crew.Reaches, Crew.historyOf, Crew.follow_eq_some_iff, Crew.Reaches.split
-/
import HardwareDecode.Crew
import HardwareDecode.Effect.Trace

namespace HardwareDecode.Crew

variable {S ν γ σ ο α : Type}

/-- `crew.Reaches trace last`: the crew comes to `last` along `trace`. -/
inductive Reaches :
    Crew S ν γ σ ο α → List (Nat × Exchange S ν) → Crew S ν γ σ ο α → Prop where
  | here (crew : Crew S ν γ σ ο α) : Reaches crew [] crew
  | step {crew last : Crew S ν γ σ ο α} {number : Nat} {worker : Worker S ν γ σ ο α}
      {request : Request S ν} {resume : request.Answer → Program S ν α}
      {served : Served request.Answer (World (γ × σ)) (Entry ο ν)}
      {trace : List (Nat × Exchange S ν)}
      (found : crew.workers[number]? = some worker)
      (asks : worker.program = .ask request resume)
      (answered : worker.backend.serve request (crew.world worker) = some served)
      (tail :
        Reaches (crew.update number worker (resume served.answer) served.world served.journal)
          trace last) :
      Reaches crew ((number, ⟨request, served.answer⟩) :: trace) last

/-- The exchanges of one worker. -/
def historyOf (number : Nat) (trace : List (Nat × Exchange S ν)) : List (Exchange S ν) :=
  trace.filterMap fun mark => if mark.1 = number then some mark.2 else none

theorem historyOf_cons_self (number : Nat) (exchange : Exchange S ν)
    (trace : List (Nat × Exchange S ν)) :
    historyOf number ((number, exchange) :: trace) = exchange :: historyOf number trace := by
  simp [historyOf]

theorem historyOf_cons_of_ne {number other : Nat} (distinct : other ≠ number)
    (exchange : Exchange S ν) (trace : List (Nat × Exchange S ν)) :
    historyOf number ((other, exchange) :: trace) = historyOf number trace := by
  simp [historyOf, distinct]

/-- One step of a schedule is one exchange. -/
theorem step_eq_some_iff {crew after : Crew S ν γ σ ο α} {number : Nat} :
    crew.step number = some after ↔
      ∃ worker request resume served,
        crew.workers[number]? = some worker ∧ worker.program = .ask request resume ∧
          worker.backend.serve request (crew.world worker) = some served ∧
          after = crew.update number worker (resume served.answer) served.world
            served.journal := by
  constructor
  · intro stepped
    unfold step at stepped
    split at stepped
    · cases stepped
    · rename_i worker found
      split at stepped
      · cases stepped
      · rename_i request resume asks
        obtain ⟨served, answered, rfl⟩ := Option.map_eq_some_iff.mp stepped
        exact ⟨worker, request, resume, served, found, asks, answered, rfl⟩
  · rintro ⟨worker, request, resume, served, found, asks, answered, rfl⟩
    simp [step, found, asks, answered]

/-- A schedule can be followed exactly if the crew gets there by exchanges of the workers that it
names. -/
theorem follow_eq_some_iff {crew last : Crew S ν γ σ ο α} {schedule : List Nat} :
    crew.follow schedule = some last ↔
      ∃ trace, crew.Reaches trace last ∧ trace.map Prod.fst = schedule := by
  constructor
  · intro followed
    induction schedule generalizing crew with
    | nil =>
        cases followed
        exact ⟨[], .here _, rfl⟩
    | cons number schedule inductionHypothesis =>
        simp only [follow] at followed
        cases stepped : crew.step number with
        | none => simp [stepped] at followed
        | some after =>
            simp only [stepped] at followed
            obtain ⟨trace, reached, rfl⟩ := inductionHypothesis followed
            obtain ⟨worker, request, resume, served, found, asks, answered, rfl⟩ :=
              step_eq_some_iff.mp stepped
            exact ⟨_, .step found asks answered reached, rfl⟩
  · rintro ⟨trace, reached, rfl⟩
    induction reached with
    | here => rfl
    | step found asks answered _ inductionHypothesis =>
        have stepped := step_eq_some_iff.mpr ⟨_, _, _, _, found, asks, answered, rfl⟩
        simp [follow, stepped, inductionHypothesis]

theorem Reaches.length_workers {crew last : Crew S ν γ σ ο α} {trace : List (Nat × Exchange S ν)}
    (reached : crew.Reaches trace last) : last.workers.length = crew.workers.length := by
  induction reached with
  | here => rfl
  | step _ _ _ _ inductionHypothesis => rw [inductionHypothesis, update, List.length_set]

/-- A crew that comes along a trace comes along every start of it. -/
theorem Reaches.split {crew last : Crew S ν γ σ ο α} {front back : List (Nat × Exchange S ν)}
    (reached : crew.Reaches (front ++ back) last) :
    ∃ middle, crew.Reaches front middle ∧ middle.Reaches back last := by
  induction front generalizing crew with
  | nil => exact ⟨crew, .here crew, reached⟩
  | cons mark front inductionHypothesis =>
      cases reached with
      | step found asks answered tail =>
          obtain ⟨middle, first, second⟩ := inductionHypothesis tail
          exact ⟨middle, .step found asks answered first, second⟩

end HardwareDecode.Crew
