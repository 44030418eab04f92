/-
Module: HardwareDecode.Proofs.FrameTrials
Purpose: The commits of a whole frame, tried one after the other, and the buffers they leave.  The
  session's own commits and those of its assembler make one strategy.  What was said about buffers
  settles which commits were tried so far, and the last one that was lent a buffer decides what that
  buffer holds.
Main exports: Assembler.requiring, Frame.strategy, Protocol.IgnoresLogs.obeys_frame_assemble,
  Assembler.StartsWith, Assembler.StartsWith.unique, Assembler.Leads, Trial.lent?, Trial.stored,
  Trial.storedIn_of_last, bufferCalls, Frame.HasTried
-/
import HardwareDecode.Proofs.CommitOutcome

namespace HardwareDecode

variable {S ν τ : Type}

open HardwareDecode.Action

/-! ### A frame is one strategy -/

/-- Commit a payload, and go on only if that succeeds. -/
def Assembler.requiring (kind : BufferKind) (payload : Bytes) (next : Assembler ν) : Assembler ν :=
  .commit kind payload 0 fun
    | .ok _ => next
    | .error error => .fail error

/-- The session's own payloads and then the assembler's. -/
def Frame.strategy (frame : Frame S ν) : Assembler ν :=
  .requiring .pictureParameters frame.pictureParameters
    (if frame.quantMatrix.isEmpty then frame.assembler
      else .requiring .inverseQuantizationMatrix frame.quantMatrix frame.assembler)

theorem assemble_requiring (kind : BufferKind) (payload : Bytes) (next : Assembler ν)
    (batch : Batch) :
    ((Assembler.requiring kind payload next).assemble batch : Action S ν Batch) =
      batch.require kind payload 0 >>= next.assemble := by
  rw [Assembler.requiring, Assembler.assemble, Batch.require, bind_assoc]
  refine bind_congr fun added => ?_
  rcases added with ⟨error | descriptor, after⟩
  · rfl
  · rfl

/-- A frame is put together as its strategy says, with messages about what failed. -/
theorem Protocol.IgnoresLogs.obeys_frame_assemble {protocol : Protocol S ν τ}
    (ignores : protocol.IgnoresLogs) {state : τ} {frame : Frame S ν}
    {ends : τ → Except Interruption Batch → Prop}
    (obeys : (frame.strategy.assemble {} : Action S ν Batch).run.Obeys protocol ends state) :
    frame.assemble.run.Obeys protocol ends state := by
  rw [Frame.strategy, assemble_requiring, Action.obeys_bind] at obeys
  rw [Frame.assemble, Action.obeys_bind]
  apply ignores.obeys_onFailure
  apply obeys.weaken
  intro between result later
  cases result with
  | error interruption => exact later
  | ok batch =>
      simp only at later ⊢
      rw [Action.obeys_bind, Frame.requireMatrix]
      split
      next without =>
        rw [if_pos without] at later
        exact Action.obeys_pure.mpr (ignores.obeys_onFailure later)
      next given =>
        rw [if_neg given, assemble_requiring, Action.obeys_bind] at later
        apply ignores.obeys_onFailure
        apply later.weaken
        intro between result rest
        cases result with
        | error interruption => exact rest
        | ok batch => exact ignores.obeys_onFailure rest

/-! ### The trials that a strategy starts with -/

/-- Behind some descriptors these are the first trials of a strategy, whatever comes after.  It is
told of each what came of it, and does not survive a commit that panics. -/
def Assembler.StartsWith : Assembler ν → List Descriptor → List (Trial S) → Prop
  | _, _, [] => True
  | finish, _, _ :: _ | fail _, _, _ :: _ | panic _, _, _ :: _ => False
  | commit kind payload macroblocks next, before, trial :: later =>
      trial.made = ⟨kind, payload, macroblocks⟩ ∧
        match attempted trial.result with
        | .ok answer => (next answer).StartsWith (before ++ answer.toOption.toList) later
        | .error _ => later = []
  | inspect next, before, trials => (next before).StartsWith before trials
  | note _ next, before, trials => next.StartsWith before trials

namespace Trial

@[simp] theorem dialogue_append (front back : List (Trial S)) :
    dialogue (front ++ back) = dialogue front ++ dialogue back := by
  simp [dialogue]

@[simp] theorem descriptors_append (front back : List (Trial S)) :
    descriptors (front ++ back) = descriptors front ++ descriptors back := by
  simp [descriptors]

theorem said_ne_nil (trial : Trial S) : trial.said ≠ [] := by
  obtain ⟨made, said, result, agrees⟩ := trial
  cases agrees <;> nofun

theorem dialogue_eq_nil {trials : List (Trial S)} (silent : dialogue trials = []) :
    trials = [] := by
  cases trials with
  | nil => rfl
  | cons trial trials =>
      rw [dialogue_cons] at silent
      exact absurd (List.append_eq_nil_iff.mp silent).1 trial.said_ne_nil

end Trial

namespace Assembler

@[simp] theorem startsWith_nil (assembler : Assembler ν) (before : List Descriptor) :
    assembler.StartsWith before ([] : List (Trial S)) := by
  unfold StartsWith
  trivial

/-- What comes behind a commit is up to the rest of the strategy, unless the commit panicked. -/
theorem startsWith_commit {kind : BufferKind} {payload : Bytes} {macroblocks : UInt32}
    {next : Except FrameError Descriptor → Assembler ν} {before : List Descriptor}
    {trial : Trial S} {later : List (Trial S)} :
    (commit kind payload macroblocks next).StartsWith before (trial :: later) ↔
      trial.made = ⟨kind, payload, macroblocks⟩ ∧
        match attempted trial.result with
        | .ok answer => (next answer).StartsWith (before ++ answer.toOption.toList) later
        | .error _ => later = [] := by
  rw [StartsWith]

theorem startsWith_inspect {next : List Descriptor → Assembler ν} {before : List Descriptor}
    {trials : List (Trial S)} :
    (inspect next).StartsWith before trials ↔ (next before).StartsWith before trials := by
  cases trials with
  | nil => simp
  | cons trial later => exact Iff.rfl

theorem startsWith_note {mark : ν} {next : Assembler ν} {before : List Descriptor}
    {trials : List (Trial S)} :
    (note mark next).StartsWith before trials ↔ next.StartsWith before trials := by
  cases trials with
  | nil => simp
  | cons trial later => exact Iff.rfl

/-- What was said settles which trials a strategy started with. -/
theorem StartsWith.unique {assembler : Assembler ν} {before : List Descriptor}
    {trials others : List (Trial S)} (starts : assembler.StartsWith before trials)
    (again : assembler.StartsWith before others)
    (same : Trial.dialogue trials = Trial.dialogue others) : trials = others := by
  induction assembler generalizing before trials others with
  | inspect next inductionHypothesis =>
      rw [startsWith_inspect] at starts again
      exact inductionHypothesis before starts again same
  | note mark next inductionHypothesis =>
      rw [startsWith_note] at starts again
      exact inductionHypothesis starts again same
  | finish | fail | panic =>
      cases trials with
      | nil => exact (Trial.dialogue_eq_nil same.symm).symm
      | cons _ _ => exact False.elim starts
  | commit kind payload macroblocks next inductionHypothesis =>
      match trials, others with
      | [], _ => exact (Trial.dialogue_eq_nil same.symm).symm
      | _, [] => exact Trial.dialogue_eq_nil same
      | one :: trials, other :: others =>
          obtain ⟨made, rest⟩ := startsWith_commit.mp starts
          obtain ⟨remade, behind⟩ := startsWith_commit.mp again
          obtain ⟨rfl, heard⟩ : one = other ∧ _ :=
            Trial.settles (made.trans remade.symm) (congrArg (· ++ []) same)
          simp only [List.append_nil] at heard
          cases told : attempted one.result with
          | ok answer =>
              simp only [told] at rest behind
              rw [inductionHypothesis answer rest behind heard]
          | error interruption =>
              simp only [told] at rest behind
              rw [rest, behind]

end Assembler

/-- The answer told of a result gives what the result gives. -/
theorem toOption_of_attempted {α : Type} {result : Except Interruption α}
    {answer : Except FrameError α} (told : attempted result = .ok answer) :
    result.toOption = answer.toOption := by
  rcases result with (error | cause) | value
  · cases told
    rfl
  · cases told
  · cases told
    rfl

/-- What is left of a strategy behind some trials, with the descriptors it has by then. -/
structure Assembler.Leads (strategy : Assembler ν) (trials : List (Trial S)) (rest : Assembler ν)
    (before : List Descriptor) : Prop where
  descriptors : before = Trial.descriptors trials
  /-- Whatever is tried from here on, the strategy tries behind those trials. -/
  continues : ∀ more : List (Trial S), rest.StartsWith before more →
    strategy.StartsWith [] (trials ++ more)

namespace Assembler.Leads

variable {strategy : Assembler ν} {trials : List (Trial S)} {before : List Descriptor}

theorem start (strategy : Assembler ν) : strategy.Leads ([] : List (Trial S)) strategy [] where
  descriptors := rfl
  continues _ starts := starts

theorem startsWith {rest : Assembler ν} (leads : strategy.Leads trials rest before) :
    strategy.StartsWith [] trials := by
  have starts := leads.continues [] (rest.startsWith_nil before)
  rwa [List.append_nil] at starts

theorem inspect {next : List Descriptor → Assembler ν}
    (leads : strategy.Leads trials (.inspect next) before) :
    strategy.Leads trials (next before) before where
  descriptors := leads.descriptors
  continues more starts := leads.continues more (startsWith_inspect.mpr starts)

theorem note {mark : ν} {next : Assembler ν}
    (leads : strategy.Leads trials (.note mark next) before) :
    strategy.Leads trials next before where
  descriptors := leads.descriptors
  continues more starts := leads.continues more (startsWith_note.mpr starts)

section

variable {kind : BufferKind} {payload : Bytes} {macroblocks : UInt32}
  {next : Except FrameError Descriptor → Assembler ν} {trial : Trial S}

/-- A commit that fails is tried like one that succeeds, and leaves the descriptors as they are. -/
theorem commit {answer : Except FrameError Descriptor}
    (leads : strategy.Leads trials (.commit kind payload macroblocks next) before)
    (made : trial.made = ⟨kind, payload, macroblocks⟩)
    (told : attempted trial.result = .ok answer) :
    strategy.Leads (trials ++ [trial]) (next answer) (before ++ answer.toOption.toList) := by
  have added : trial.result.toOption = answer.toOption := toOption_of_attempted told
  constructor
  · rw [leads.descriptors, Trial.descriptors_append, Trial.descriptors_cons, added,
      Trial.descriptors_nil, List.append_nil]
  · intro more starts
    rw [List.append_assoc]
    apply leads.continues
    rw [List.singleton_append, startsWith_commit, told]
    exact ⟨made, starts⟩

/-- A commit that panics is the last one. -/
theorem unwinds {interruption : Interruption}
    (leads : strategy.Leads trials (.commit kind payload macroblocks next) before)
    (made : trial.made = ⟨kind, payload, macroblocks⟩)
    (panicked : attempted trial.result = .error interruption) :
    strategy.StartsWith [] (trials ++ [trial]) := by
  apply leads.continues
  rw [startsWith_commit, panicked]
  exact ⟨made, rfl⟩

end

end Assembler.Leads

/-! ### The buffers that trials leave -/

namespace Trial

/-- The buffer that was lent for the commit. -/
def lent? (trial : Trial S) : Option Bytes :=
  match trial.said with
  | ⟨.getBuffer _, .ok lent⟩ :: _ => some lent
  | _ => none

/-- What the commit leaves in the buffer of a kind, if it was lent that buffer. -/
def contents (trial : Trial S) (kind : BufferKind) : Option Bytes :=
  if trial.made.kind = kind then trial.lent?.map trial.made.written else none

/-- What is stored of a kind after some trials: what the last one left that was lent its buffer. -/
def stored (trials : List (Trial S)) (kind : BufferKind) : Option Bytes :=
  (trials.filterMap fun trial => trial.contents kind).getLast?

/-- The buffers after a trial. -/
def onto (trial : Trial S) (shelf : Shelf) : Shelf :=
  trial.lent?.elim shelf fun lent => shelf.put trial.made.kind (trial.made.written lent)

/-- A commit that succeeded was lent a buffer in which its payload has room. -/
theorem exists_lent {trial : Trial S} {descriptor : Descriptor}
    (succeeded : trial.result = .ok descriptor) :
    descriptor = trial.made.descriptor ∧
      ∃ lent, trial.lent? = some lent ∧ trial.made.payload.Fits lent := by
  obtain ⟨made, said, result, agrees⟩ := trial
  obtain rfl : result = .ok descriptor := succeeded
  cases agrees with
  | committed fits => exact ⟨rfl, _, rfl, fits⟩

theorem stored_concat (trials : List (Trial S)) (trial : Trial S) (kind : BufferKind) :
    stored (trials ++ [trial]) kind = (trial.contents kind).or (stored trials kind) := by
  cases left : trial.contents kind with
  | none => simp [stored, left]
  | some bytes => simp [stored, left]

theorem stored_onto {trials : List (Trial S)} {shelf : Shelf} (shows : shelf.stored = stored trials)
    (trial : Trial S) : (trial.onto shelf).stored = stored (trials ++ [trial]) := by
  funext kind
  rw [stored_concat, onto, contents]
  cases trial.lent? with
  | none => simp [shows]
  | some lent =>
      by_cases same : trial.made.kind = kind
      · simp [← same]
      · simp [same, Shelf.stored_put_of_ne shelf _ (Ne.symm same), shows]

/-- A buffer holds what was written into it until it is lent again. -/
theorem stored_of_last {front back : List (Trial S)} {trial : Trial S} {lent : Bytes}
    (given : trial.lent? = some lent)
    (last : ∀ later ∈ back, later.made.kind = trial.made.kind → later.lent? = none) :
    stored (front ++ trial :: back) trial.made.kind = some (trial.made.written lent) := by
  have silent : (back.filterMap fun later => later.contents trial.made.kind) = [] := by
    rw [List.filterMap_eq_nil_iff]
    intro later member
    unfold contents
    split
    next same => rw [last later member same, Option.map_none]
    next => rfl
  have own : trial.contents trial.made.kind = some (trial.made.written lent) := by
    rw [contents, if_pos rfl, given, Option.map_some]
  simp [stored, List.filterMap_append, own, silent]

/-- The payload of a commit that succeeded is stored until its buffer is lent again. -/
theorem storedIn_of_last {front back : List (Trial S)} {trial : Trial S} {descriptor : Descriptor}
    (succeeded : trial.result = .ok descriptor)
    (last : ∀ later ∈ back, later.made.kind = trial.made.kind → later.lent? = none) :
    trial.made.StoredIn (stored (front ++ trial :: back)) := by
  obtain ⟨_, lent, given, fits⟩ := exists_lent succeeded
  refine ⟨UInt32.toNat_ofNat_of_lt fits.1, _, stored_of_last given last, ?_⟩
  rw [Commit.written, if_pos fits, List.take_left]

end Trial

/-- Calls that lend a buffer or take it back. -/
def Call.handlesBuffer : Call S → Bool
  | getBuffer _ | releaseBuffer _ => true
  | _ => false

/-- The calls among a sequence of exchanges that lend buffers or take them back. -/
def bufferCalls (trace : List (Exchange S ν)) : Dialogue S :=
  (driverCalls trace).filter fun said => said.call.handlesBuffer

theorem bufferCalls_append (front back : List (Exchange S ν)) :
    bufferCalls (front ++ back) = bufferCalls front ++ bufferCalls back := by
  rw [bufferCalls, driverCalls_append, List.filter_append]
  rfl

/-- These commits of a frame were tried along a trace. -/
def Frame.HasTried (frame : Frame S ν) (trials : List (Trial S)) (trace : List (Exchange S ν)) :
    Prop :=
  frame.strategy.StartsWith [] trials ∧ bufferCalls trace = Trial.dialogue trials

theorem Frame.HasTried.unique {frame : Frame S ν} {trials others : List (Trial S)}
    {trace : List (Exchange S ν)} (tried : frame.HasTried trials trace)
    (again : frame.HasTried others trace) : trials = others :=
  tried.1.unique again.1 (tried.2.symm.trans again.2)

end HardwareDecode
