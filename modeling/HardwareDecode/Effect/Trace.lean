/-
Module: HardwareDecode.Effect.Trace
Purpose: What a program can do when nothing is known about its surroundings: the sequences of
  requests with their answers along which it proceeds.  A statement about all runs of a program is
  a statement about every driver, scripted or not.
Main exports: Exchange, Program.Follows
-/
import HardwareDecode.Effect.Program

namespace HardwareDecode

/-- A request with the answer it got. -/
structure Exchange (S ν : Type) where
  request : Request S ν
  answer : request.Answer

namespace Program

variable {S ν α : Type}

/-- `program.Follows trace rest`: along `trace` the program comes to what `rest` still has to
do. -/
inductive Follows : Program S ν α → List (Exchange S ν) → Program S ν α → Prop where
  | here (program : Program S ν α) : Follows program [] program
  | step {request : Request S ν} {resume : request.Answer → Program S ν α}
      {answer : request.Answer} {trace : List (Exchange S ν)} {rest : Program S ν α}
      (tail : Follows (resume answer) trace rest) :
      Follows (ask request resume) (⟨request, answer⟩ :: trace) rest

end Program

end HardwareDecode
