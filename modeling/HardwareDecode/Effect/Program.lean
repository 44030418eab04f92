/-
Module: HardwareDecode.Effect.Program
Purpose: Computations as trees of requests: a computation is either finished, or asks for something
  and goes on with the answer.
Main exports: Program, Program.bind, Program.request
-/
import HardwareDecode.Effect.Request

namespace HardwareDecode

/-- A computation with a result in `α`. -/
inductive Program (S ν α : Type) where
  | done (value : α)
  | ask (request : Request S ν) (resume : request.Answer → Program S ν α)

namespace Program

variable {S ν α β γ : Type}

/-- One program after another. -/
protected def bind : Program S ν α → (α → Program S ν β) → Program S ν β
  | done value, next => next value
  | ask request resume, next => ask request fun answer => (resume answer).bind next

instance : Monad (Program S ν) where
  pure := done
  bind := Program.bind

/-- The program that asks for one thing and gives the answer. -/
def request (request : Request S ν) : Program S ν request.Answer :=
  ask request done

@[simp] theorem pure_eq_done (value : α) : (pure value : Program S ν α) = done value := rfl

@[simp] theorem done_bind (value : α) (next : α → Program S ν β) :
    (done value : Program S ν α) >>= next = next value := rfl

@[simp] theorem ask_bind (request : Request S ν) (resume : request.Answer → Program S ν α)
    (next : α → Program S ν β) :
    ask request resume >>= next = ask request fun answer => resume answer >>= next := rfl

@[simp] theorem request_bind (request : Request S ν) (next : request.Answer → Program S ν β) :
    Program.request request >>= next = ask request next := rfl

theorem bind_done (program : Program S ν α) : program >>= done = program := by
  induction program with
  | done => rfl
  | ask request resume inductionHypothesis =>
      rw [ask_bind]
      congr 1
      funext answer
      exact inductionHypothesis answer

theorem bind_assoc (program : Program S ν α) (next : α → Program S ν β)
    (last : β → Program S ν γ) :
    program >>= next >>= last = program >>= fun value => next value >>= last := by
  induction program with
  | done => rfl
  | ask request resume inductionHypothesis =>
      simp only [ask_bind]
      congr 1
      funext answer
      exact inductionHypothesis answer

instance : LawfulMonad (Program S ν) :=
  LawfulMonad.mk' (Program S ν) bind_done (fun _ _ => rfl) bind_assoc

end Program

end HardwareDecode
