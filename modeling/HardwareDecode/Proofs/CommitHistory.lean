/-
Module: HardwareDecode.Proofs.CommitHistory
Purpose: What an assembler did with a frame, commit by commit: what it committed, what the driver
  was told and answered in each commit, what came of it, and how the assembler ended.  A batch holds
  the descriptors of the commits that succeeded, and what was said to the driver settles all the
  rest.
Main exports: Trial, Trial.dialogue, Trial.descriptors, Assembler.Tries,
  AssemblyDialogue.exists_tries, Assembler.Tries.settles
-/
import HardwareDecode.Proofs.Dialogue
import HardwareDecode.Proofs.Shelf

namespace HardwareDecode

variable {S ν : Type}

/-- A commit that was tried, with what was said in it and what came of it. -/
structure Trial (S : Type) where
  made : Commit
  said : Dialogue S
  result : Except Interruption Descriptor
  agrees : CommitDialogue made.kind made.payload made.macroblocks said result

namespace Trial

/-- What was said in trials one after the other. -/
def dialogue (trials : List (Trial S)) : Dialogue S := trials.flatMap said

/-- The descriptors of the commits that succeeded, in the order of the trials. -/
def descriptors (trials : List (Trial S)) : List Descriptor :=
  trials.filterMap fun trial => trial.result.toOption

@[simp] theorem dialogue_nil : dialogue ([] : List (Trial S)) = [] := rfl

@[simp] theorem dialogue_cons (trial : Trial S) (trials : List (Trial S)) :
    dialogue (trial :: trials) = trial.said ++ dialogue trials := by
  simp [dialogue]

@[simp] theorem descriptors_nil : descriptors ([] : List (Trial S)) = [] := rfl

@[simp] theorem descriptors_cons (trial : Trial S) (trials : List (Trial S)) :
    descriptors (trial :: trials) = trial.result.toOption.toList ++ descriptors trials := by
  cases answered : trial.result with
  | error interruption => simp [descriptors, answered, Except.toOption]
  | ok descriptor => simp [descriptors, answered, Except.toOption]

end Trial

open HardwareDecode.Action

/-- `assembler.Tries before trials ended`: behind the descriptors `before` the strategy makes the
commits of `trials`, is told of each what came of it, and ends so.  It ends with a panic of its own
or with that of a commit, which it does not survive. -/
inductive Assembler.Tries :
    Assembler ν → List Descriptor → List (Trial S) → Except Interruption Unit → Prop where
  | finish (before : List Descriptor) : Tries .finish before [] (.ok ())
  | fail (error : FrameError) (before : List Descriptor) :
      Tries (.fail error) before [] (.error (.failure error))
  | panic (cause : Panic) (before : List Descriptor) :
      Tries (.panic cause) before [] (.error (.panic cause))
  | commit {kind : BufferKind} {payload : Bytes} {macroblocks : UInt32}
      {next : Except FrameError Descriptor → Assembler ν} {before : List Descriptor}
      {trial : Trial S} {answer : Except FrameError Descriptor} {trials : List (Trial S)}
      {ended : Except Interruption Unit} (made : trial.made = ⟨kind, payload, macroblocks⟩)
      (told : attempted trial.result = .ok answer)
      (later : Tries (next answer) (before ++ answer.toOption.toList) trials ended) :
      Tries (.commit kind payload macroblocks next) before (trial :: trials) ended
  | unwinds {kind : BufferKind} {payload : Bytes} {macroblocks : UInt32}
      {next : Except FrameError Descriptor → Assembler ν} {before : List Descriptor}
      {trial : Trial S} {cause : Panic} (made : trial.made = ⟨kind, payload, macroblocks⟩)
      (panicked : trial.result = .error (.panic cause)) :
      Tries (.commit kind payload macroblocks next) before [trial] (.error (.panic cause))
  | inspect {next : List Descriptor → Assembler ν} {before : List Descriptor}
      {trials : List (Trial S)} {ended : Except Interruption Unit}
      (later : Tries (next before) before trials ended) : Tries (.inspect next) before trials ended
  | note {mark : ν} {next : Assembler ν} {before : List Descriptor} {trials : List (Trial S)}
      {ended : Except Interruption Unit} (later : Tries next before trials ended) :
      Tries (.note mark next) before trials ended

/-- The batch that a strategy leaves, if it leaves one. -/
def Trial.leaves (before : List Descriptor) (trials : List (Trial S))
    (ended : Except Interruption Unit) : Except Interruption Batch :=
  ended.map fun _ => ⟨before ++ descriptors trials⟩

/-- What is said in an assembly is said in the trials of its strategy, and the batch it leaves holds
the descriptors of those that succeeded. -/
theorem AssemblyDialogue.exists_tries {assembler : Assembler ν} {batch : Batch}
    {said : Dialogue S} {result : Except Interruption Batch}
    (spoken : AssemblyDialogue assembler batch said result) :
    ∃ trials ended, assembler.Tries batch.descriptors trials ended ∧
      said = Trial.dialogue trials ∧ result = Trial.leaves batch.descriptors trials ended := by
  induction spoken with
  | finish batch => exact ⟨[], .ok (), .finish _, rfl, by simp [Trial.leaves, Except.map]⟩
  | fail error batch => exact ⟨[], _, .fail error _, rfl, rfl⟩
  | panic cause batch => exact ⟨[], _, .panic cause _, rfl, rfl⟩
  | @commitSucceeds kind payload macroblocks next batch descriptor front back result committed _
      inductionHypothesis =>
      obtain ⟨trials, ended, tries, same, left⟩ := inductionHypothesis
      let trial : Trial S := ⟨⟨kind, payload, macroblocks⟩, front, .ok descriptor, committed⟩
      refine ⟨trial :: trials, ended, .commit rfl rfl tries, by simp [same, trial], ?_⟩
      rw [left]
      simp [Trial.leaves, Batch.push, trial, Except.toOption]
  | @commitFails kind payload macroblocks next batch error front back result committed _
      inductionHypothesis =>
      obtain ⟨trials, ended, tries, same, left⟩ := inductionHypothesis
      let trial : Trial S :=
        ⟨⟨kind, payload, macroblocks⟩, front, .error (.failure error), committed⟩
      have later : (next (.error error)).Tries (batch.descriptors ++ []) trials ended := by
        simpa using tries
      refine ⟨trial :: trials, ended, .commit rfl rfl later, by simp [same, trial], ?_⟩
      rw [left]
      simp [Trial.leaves, trial, Except.toOption]
  | @commitPanics kind payload macroblocks next batch cause said committed =>
      let trial : Trial S := ⟨⟨kind, payload, macroblocks⟩, said, .error (.panic cause), committed⟩
      exact ⟨[trial], _, .unwinds rfl rfl, by simp [trial], rfl⟩
  | inspect _ inductionHypothesis =>
      obtain ⟨trials, ended, tries, same, left⟩ := inductionHypothesis
      exact ⟨trials, ended, .inspect tries, same, left⟩
  | note _ inductionHypothesis =>
      obtain ⟨trials, ended, tries, same, left⟩ := inductionHypothesis
      exact ⟨trials, ended, .note tries, same, left⟩

/-- Of two trials of one commit, what was said settles which is which, and what was said later. -/
theorem Trial.settles {one other : Trial S} {trials others : List (Trial S)}
    {early late : Dialogue S} (made : one.made = other.made)
    (same : dialogue (one :: trials) ++ early = dialogue (other :: others) ++ late) :
    one = other ∧ dialogue trials ++ early = dialogue others ++ late := by
  simp only [dialogue_cons, List.append_assoc] at same
  obtain ⟨commit, said, result, agrees⟩ := one
  obtain ⟨again, spoken, answer, agree⟩ := other
  obtain rfl : commit = again := made
  obtain ⟨saidEq, resultEq⟩ := CommitDialogue.settles agrees agree same
  subst saidEq resultEq
  exact ⟨rfl, List.append_cancel_left same⟩

/-- What was said to the driver settles which trials a strategy made and how it ended. -/
theorem Assembler.Tries.settles {assembler : Assembler ν} {before : List Descriptor}
    {trials others : List (Trial S)} {ended finished : Except Interruption Unit}
    {early late : Dialogue S} (tries : assembler.Tries before trials ended)
    (again : assembler.Tries before others finished)
    (same : Trial.dialogue trials ++ early = Trial.dialogue others ++ late) :
    trials = others ∧ ended = finished := by
  induction tries generalizing others with
  | finish | fail | panic =>
      cases again
      exact ⟨rfl, rfl⟩
  | commit made told _ inductionHypothesis =>
      cases again with
      | commit remade retold later =>
          obtain ⟨rfl, behind⟩ := Trial.settles (made.trans remade.symm) same
          -- the strategy goes on by what it was told, and that is settled with the trial
          obtain rfl := Except.ok.inj (told.symm.trans retold)
          obtain ⟨rfl, rfl⟩ := inductionHypothesis later behind
          exact ⟨rfl, rfl⟩
      | unwinds remade panicked =>
          obtain ⟨rfl, _⟩ := Trial.settles (made.trans remade.symm) same
          simp [panicked, attempted] at told
  | unwinds made panicked =>
      cases again with
      | commit remade told later =>
          obtain ⟨rfl, _⟩ := Trial.settles (made.trans remade.symm) same
          simp [panicked, attempted] at told
      | unwinds remade repanicked =>
          obtain ⟨rfl, _⟩ := Trial.settles (made.trans remade.symm) same
          rw [panicked] at repanicked
          cases repanicked
          exact ⟨rfl, rfl⟩
  | inspect _ inductionHypothesis | note _ inductionHypothesis =>
      cases again with
      | _ later => exact inductionHypothesis later same

end HardwareDecode
