/-
Module: HardwareDecode.Effect.Progress
Purpose: How far a program comes in given surroundings, request by request.  A finished run is a
  sequence of such steps, and every such sequence is one along which the program proceeds when
  nothing is known about its surroundings.
Main exports: Environment.Reaches, Environment.Reaches.follows, Environment.run_eq_some_iff,
  Environment.comesTo, Environment.comesTo_iff
-/
import HardwareDecode.Effect.Environment
import HardwareDecode.Effect.Trace

namespace HardwareDecode.Environment

variable {S ν W ε α : Type}

/-- `environment.Reaches program world trace journal rest after`: from `world` the program comes,
along `trace`, to what `rest` still has to do in `after`, and leaves `journal`. -/
inductive Reaches (environment : Environment S ν W ε) :
    Program S ν α → W → List (Exchange S ν) → List ε → Program S ν α → W → Prop where
  | here (program : Program S ν α) (world : W) :
      Reaches environment program world [] [] program world
  | step {request : Request S ν} {resume : request.Answer → Program S ν α} {world : W}
      {served : Served request.Answer W ε} {trace : List (Exchange S ν)} {journal : List ε}
      {rest : Program S ν α} {after : W}
      (answered : environment.serve request world = some served)
      (tail : Reaches environment (resume served.answer) served.world trace journal rest after) :
      Reaches environment (.ask request resume) world (⟨request, served.answer⟩ :: trace)
        (served.journal ++ journal) rest after

namespace Reaches

variable {environment : Environment S ν W ε}

/-- What happens in given surroundings can happen in some surroundings. -/
theorem follows {program rest : Program S ν α} {world after : W} {trace : List (Exchange S ν)}
    {journal : List ε} (reached : environment.Reaches program world trace journal rest after) :
    program.Follows trace rest := by
  induction reached with
  | here => exact .here _
  | step _ _ inductionHypothesis => exact .step inductionHypothesis

/-- A step whose answer is known. -/
theorem answered {request : Request S ν} {resume : request.Answer → Program S ν α}
    {answer : request.Answer} {rest : Program S ν α} {world between after : W}
    {trace : List (Exchange S ν)} {early late : List ε}
    (served : environment.serve request world = some ⟨answer, between, early⟩)
    (tail : environment.Reaches (resume answer) between trace late rest after) :
    environment.Reaches (.ask request resume) world (⟨request, answer⟩ :: trace) (early ++ late)
      rest after :=
  .step served tail

/-- A program that goes on was answered. -/
theorem exists_served {request : Request S ν} {resume : request.Answer → Program S ν α}
    {rest : Program S ν α} {world after : W} {trace : List (Exchange S ν)} {journal : List ε}
    (reached : environment.Reaches (.ask request resume) world trace journal rest after)
    (moved : trace ≠ []) : ∃ served, environment.serve request world = some served := by
  cases reached with
  | here => exact absurd rfl moved
  | step answered _ => exact ⟨_, answered⟩

theorem trans {first middle last : Program S ν α} {world between after : W}
    {front back : List (Exchange S ν)} {early late : List ε}
    (one : environment.Reaches first world front early middle between)
    (two : environment.Reaches middle between back late last after) :
    environment.Reaches first world (front ++ back) (early ++ late) last after := by
  induction one with
  | here => exact two
  | step answered _ inductionHypothesis =>
      rw [List.append_assoc]
      exact .step answered (inductionHypothesis two)

theorem bind {β : Type} {program rest : Program S ν α} {next : α → Program S ν β}
    {world after : W} {trace : List (Exchange S ν)} {journal : List ε}
    (reached : environment.Reaches program world trace journal rest after) :
    environment.Reaches (program >>= next) world trace journal (rest >>= next) after := by
  induction reached with
  | here => exact .here _ _
  | step answered _ inductionHypothesis => exact .step answered inductionHypothesis

/-- Surroundings answer in one way, so a program that comes somewhere goes on from there. -/
theorem append_iff {program middle rest : Program S ν α} {world between after : W}
    {front back : List (Exchange S ν)} {early late : List ε}
    (first : environment.Reaches program world front early middle between) :
    environment.Reaches program world (front ++ back) (early ++ late) rest after ↔
      environment.Reaches middle between back late rest after := by
  constructor
  · intro reached
    induction first with
    | here => exact reached
    | @step request resume world served front early middle between answered _
        inductionHypothesis =>
        rw [List.cons_append, List.append_assoc] at reached
        generalize asked : Exchange.mk request served.answer :: (front ++ back) = trace at reached
        generalize left : served.journal ++ (early ++ late) = journal at reached
        cases reached with
        | here => cases asked
        | step again tail =>
            obtain rfl := Option.some.inj (again.symm.trans answered)
            rw [← (List.cons.inj asked).2, ← List.append_cancel_left left] at tail
            exact inductionHypothesis tail
  · exact first.trans

end Reaches

/-- A program finishes exactly if it reaches its end. -/
theorem run_eq_some_iff {environment : Environment S ν W ε} {program : Program S ν α} {world : W}
    {finished : Finished α W ε} :
    environment.run program world = some finished ↔
      ∃ trace, environment.Reaches program world trace finished.journal (.done finished.value)
        finished.world := by
  induction program generalizing world finished with
  | done value =>
      constructor
      · intro ended
        cases ended
        exact ⟨[], .here _ _⟩
      · rintro ⟨trace, reached⟩
        obtain ⟨result, after, journal⟩ := finished
        cases reached
        rfl
  | ask request resume inductionHypothesis =>
      rw [run_ask]
      constructor
      · intro ended
        obtain ⟨served, answered, later⟩ := Option.bind_eq_some_iff.mp ended
        obtain ⟨rest, finishes, rfl⟩ := Option.map_eq_some_iff.mp later
        obtain ⟨trace, reached⟩ := (inductionHypothesis served.answer).mp finishes
        exact ⟨_, .step answered reached⟩
      · rintro ⟨trace, reached⟩
        obtain ⟨result, after, journal⟩ := finished
        cases reached with
        | @step _ _ _ served rest journal _ _ answered tail =>
            have later :
                environment.run (resume served.answer) served.world =
                  some ⟨result, after, journal⟩ :=
              (inductionHypothesis served.answer).mpr ⟨_, tail⟩
            simp [answered, later]

/-- Whether the program comes to a request of some sort. -/
def comesTo (environment : Environment S ν W ε) (sort : Request S ν → Bool) :
    Program S ν α → W → Bool
  | .done _, _ => false
  | .ask request resume, world =>
      sort request ||
        match environment.serve request world with
        | none => false
        | some served => environment.comesTo sort (resume served.answer) served.world

theorem comesTo_iff {environment : Environment S ν W ε} {sort : Request S ν → Bool}
    {program : Program S ν α} {world : W} :
    environment.comesTo sort program world = true ↔
      ∃ trace journal request resume after, sort request = true ∧
        environment.Reaches program world trace journal (.ask request resume) after := by
  constructor
  · intro comes
    induction program generalizing world with
    | done value => cases comes
    | ask request resume inductionHypothesis =>
        rw [comesTo, Bool.or_eq_true] at comes
        rcases comes with sorted | later
        · exact ⟨[], [], request, resume, world, sorted, .here _ _⟩
        · cases answered : environment.serve request world with
          | none => simp [answered] at later
          | some served =>
              simp only [answered] at later
              obtain ⟨trace, journal, found, rest, after, sorted, reached⟩ :=
                inductionHypothesis served.answer later
              exact ⟨_, _, found, rest, after, sorted, .step answered reached⟩
  · rintro ⟨trace, journal, request, resume, after, sorted, reached⟩
    generalize stopped : Program.ask request resume = rest at reached
    induction reached with
    | here =>
        subst stopped
        simp [comesTo, sorted]
    | step answered _ inductionHypothesis => simp [comesTo, answered, inductionHypothesis stopped]

end HardwareDecode.Environment
