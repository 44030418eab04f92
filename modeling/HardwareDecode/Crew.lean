/-
Module: HardwareDecode.Crew
Purpose: Several programs at work at once, each over a backend of its own, that share the locks and
  one further piece of state.  A schedule decides whose request is answered next.
Main exports: Worker, Crew, Crew.step, Crew.follow, Crew.inTurn
-/
import HardwareDecode.Backend

namespace HardwareDecode

/-- A program on its way.  Its driver's state is `σ`, beside the shared state `γ`. -/
structure Worker (S ν γ σ ο α : Type) where
  backend : Backend S (γ × σ) ο
  program : Program S ν α
  driver : σ
  /-- What the program has left behind so far. -/
  journal : List (Entry ο ν) := []

/-- The result of a program that is finished. -/
def Worker.result? {S ν γ σ ο α : Type} (worker : Worker S ν γ σ ο α) : Option α :=
  match worker.program with
  | .done value => some value
  | .ask _ _ => none

/-- Programs at work, with what they share. -/
structure Crew (S ν γ σ ο α : Type) where
  shared : γ
  locks : Locks := {}
  workers : List (Worker S ν γ σ ο α)

namespace Crew

variable {S ν γ σ ο α : Type}

/-- What a worker's backend answers from. -/
def world (crew : Crew S ν γ σ ο α) (worker : Worker S ν γ σ ο α) : World (γ × σ) :=
  { driver := (crew.shared, worker.driver), locks := crew.locks }

/-- The crew after the worker with a number came to `program` and left `world` and `journal`. -/
def update (crew : Crew S ν γ σ ο α) (number : Nat) (worker : Worker S ν γ σ ο α)
    (program : Program S ν α) (world : World (γ × σ)) (journal : List (Entry ο ν)) :
    Crew S ν γ σ ο α :=
  { shared := world.driver.1
    locks := world.locks
    workers :=
      crew.workers.set number
        { worker with
          program
          driver := world.driver.2
          journal := worker.journal ++ journal } }

/-- Answer the next request of one worker, if the worker has one that can be answered now. -/
def step (crew : Crew S ν γ σ ο α) (number : Nat) : Option (Crew S ν γ σ ο α) :=
  match crew.workers[number]? with
  | none => none
  | some worker =>
      match worker.program with
      | .done _ => none
      | .ask request resume =>
          (worker.backend.serve request (crew.world worker)).map fun served =>
            crew.update number worker (resume served.answer) served.world served.journal

/-- Answer requests in the order of a schedule, which names workers that can go on. -/
def follow (crew : Crew S ν γ σ ο α) : List Nat → Option (Crew S ν γ σ ο α)
  | [] => some crew
  | number :: schedule =>
      match crew.step number with
      | none => none
      | some after => after.follow schedule

/-- Let the worker with a number work to the end of its program. -/
def finish (crew : Crew S ν γ σ ο α) (number : Nat) : Option (Crew S ν γ σ ο α) :=
  match crew.workers[number]? with
  | none => none
  | some worker =>
      (worker.backend.run worker.program (crew.world worker)).map fun finished =>
        crew.update number worker (.done finished.value) finished.world finished.journal

/-- Let the workers work one after another. -/
def inTurn (crew : Crew S ν γ σ ο α) : Option (Crew S ν γ σ ο α) :=
  (List.range crew.workers.length).foldlM (fun crew number => crew.finish number) crew

end Crew

end HardwareDecode
