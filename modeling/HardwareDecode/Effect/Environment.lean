/-
Module: HardwareDecode.Effect.Environment
Purpose: Surroundings that answer requests from a state of their own, and what a program does in
  them.  Whatever the surroundings saw on the way is collected in a journal.
Main exports: Served, Environment, Finished, Environment.run, Environment.run_ask,
  Environment.run_map
-/
import HardwareDecode.Effect.Program

namespace HardwareDecode

/-- An answer, the state after it, and the journal entries it left. -/
structure Served (α W ε : Type) where
  answer : α
  world : W
  journal : List ε := []

/-- Surroundings with states in `W` and journal entries in `ε`.  A request without an answer is
never answered: whoever asks waits for ever. -/
structure Environment (S ν W ε : Type) where
  serve : (request : Request S ν) → W → Option (Served request.Answer W ε)

/-- The result of a program, the state it left, and the journal of its run. -/
structure Finished (α W ε : Type) where
  value : α
  world : W
  journal : List ε
deriving Repr

namespace Environment

variable {S ν W ε α : Type}

/-- Run a program to its end, unless a request goes unanswered, behind the journal entries in
`seen`, of which the last comes first. -/
def runAfter (environment : Environment S ν W ε) :
    Program S ν α → W → List ε → Option (Finished α W ε)
  | .done value, world, seen => some { value, world, journal := seen.reverse }
  | .ask request resume, world, seen =>
      match environment.serve request world with
      | none => none
      | some served =>
          environment.runAfter (resume served.answer) served.world
            (served.journal.reverse ++ seen)

/-- Run a program to its end, unless a request goes unanswered. -/
def run (environment : Environment S ν W ε) (program : Program S ν α) (world : W) :
    Option (Finished α W ε) :=
  environment.runAfter program world []

/-- Entries seen before a run stand in front of the entries of the run. -/
theorem runAfter_eq (environment : Environment S ν W ε) (program : Program S ν α) (world : W)
    (seen : List ε) :
    environment.runAfter program world seen =
      (environment.run program world).map fun finished =>
        { finished with journal := seen.reverse ++ finished.journal } := by
  induction program generalizing world seen with
  | done value => simp [run, runAfter]
  | ask request resume inductionHypothesis =>
      simp only [run, runAfter]
      cases environment.serve request world with
      | none => rfl
      | some served =>
          simp only [List.append_nil]
          rw [inductionHypothesis served.answer served.world (served.journal.reverse ++ seen),
            inductionHypothesis served.answer served.world served.journal.reverse]
          simp only [Option.map_map, Function.comp_def, List.reverse_append, List.reverse_reverse,
            List.append_assoc]

@[simp] theorem run_done (environment : Environment S ν W ε) (value : α) (world : W) :
    environment.run (.done value) world = some { value, world, journal := [] } := rfl

/-- A program that asks leaves the entries of the answer and then those of the rest. -/
theorem run_ask (environment : Environment S ν W ε) (request : Request S ν)
    (resume : request.Answer → Program S ν α) (world : W) :
    environment.run (.ask request resume) world =
      (environment.serve request world).bind fun served =>
        (environment.run (resume served.answer) served.world).map fun finished =>
          { finished with journal := served.journal ++ finished.journal } := by
  simp only [run, runAfter]
  cases environment.serve request world with
  | none => rfl
  | some served =>
      simp only [List.append_nil, Option.bind_some]
      rw [runAfter_eq]
      simp only [List.reverse_reverse, run]

/-- Surroundings that are a view of others let a program run as the others do. -/
theorem run_map {V : Type} {environment : Environment S ν W ε} {viewed : Environment S ν V ε}
    (view : W → V)
    (same : ∀ request world,
      viewed.serve request (view world) =
        (environment.serve request world).map fun served =>
          { answer := served.answer, world := view served.world, journal := served.journal })
    (program : Program S ν α) (world : W) :
    viewed.run program (view world) =
      (environment.run program world).map fun finished =>
        { value := finished.value, world := view finished.world, journal := finished.journal } := by
  induction program generalizing world with
  | done value => rfl
  | ask request resume inductionHypothesis =>
      rw [run_ask, run_ask, same]
      cases environment.serve request world with
      | none => rfl
      | some served =>
          simp only [Option.map_some, Option.bind_some, inductionHypothesis, Option.map_map]
          rfl

end Environment

end HardwareDecode
