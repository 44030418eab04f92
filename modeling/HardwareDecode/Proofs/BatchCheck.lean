/-
Module: HardwareDecode.Proofs.BatchCheck
Purpose: Which batches are executed.  Behind the commits of the session itself, a frame is executed
  exactly if its assembler finishes and just a bitstream and the slice control data were committed
  with success, in that order.  Any other batch of an assembler that finishes is a programming
  error, and an assembler that fails is not judged.
Main exports: StageDialogue.InOrder.split, Frame.kinds, Frame.complaint, Frame.text_complaint_inj,
  Frame.check_eq, Frame.Judged, Backend.ChecksBatches, batches_are_checked
-/
import HardwareDecode.Proofs.CommitHistory
import HardwareDecode.Proofs.FailureReports
import HardwareDecode.Proofs.MessageIdentity
import HardwareDecode.Proofs.RecordedPayloads

namespace HardwareDecode

variable {S ν σ ο : Type}

/-! ### Behind the session's own commits -/

/-- Stages that were gone through are a first part of all stages. -/
theorem StageDialogue.InOrder.split {front back : List (StageDialogue S)} {batch between : Batch}
    {early late work more : Dialogue S} {result : Except Interruption Batch}
    (each : ∀ stage ∈ front, ∀ batch, Settles (stage batch))
    (first : InOrder front batch early (.ok between))
    (whole : InOrder (front ++ back) batch work result) (same : early ++ late = work ++ more) :
    ∃ rest, work = early ++ rest ∧ InOrder back between rest result := by
  -- along the stages that were gone through: by `each`, the whole cannot part from them
  generalize finished : (Except.ok between : Except Interruption Batch) = ended at first
  induction first generalizing work with
  | done batch =>
      cases finished
      exact ⟨work, rfl, whole⟩
  | stops interrupted => cases finished
  | goesOn succeeded _ inductionHypothesis =>
      have settles := each _ List.mem_cons_self
      rw [List.append_assoc] at same
      cases whole with
      | stops interrupted => cases (settles _ succeeded interrupted same).2
      | goesOn again later =>
          rw [List.append_assoc] at same
          obtain ⟨rfl, equal⟩ := settles _ succeeded again same
          cases equal
          obtain ⟨rest, rfl, inOrder⟩ := inductionHypothesis
            (fun stage member => each stage (List.mem_cons_of_mem _ member)) later
            (List.append_cancel_left same) finished
          exact ⟨rest, (List.append_assoc ..).symm, inOrder⟩

/-- Commits of the session that succeed are stages that are gone through. -/
theorem Commit.AllSucceed.inOrder {commits : List Commit} {said : Dialogue S}
    (succeed : Commit.AllSucceed commits said) (plain : ∀ made ∈ commits, made.macroblocks = 0)
    (batch : Batch) :
    StageDialogue.InOrder (commits.map fun made => .commit made.kind made.payload) batch said
      (.ok ⟨batch.descriptors ++ commits.map Commit.descriptor⟩) := by
  induction succeed generalizing batch with
  | nil => simpa using StageDialogue.InOrder.done batch
  | @cons made commits front back first _ inductionHypothesis =>
      have stage : StageDialogue.commit made.kind made.payload batch front
          (.ok (batch.push made.descriptor)) := by
        refine ⟨.ok made.descriptor, ?_, rfl⟩
        rw [← plain made List.mem_cons_self]
        exact first
      have rest : ∀ other ∈ commits, other.macroblocks = 0 := fun other member =>
        plain other (List.mem_cons_of_mem _ member)
      have later := inductionHypothesis rest (batch.push made.descriptor)
      simp only [Batch.push, List.append_assoc, List.cons_append, List.nil_append] at later
      exact .goesOn stage later

namespace Frame

theorem ownStages_eq (frame : Frame S ν) :
    frame.ownStages = frame.ownCommits.map fun made =>
      (.commit made.kind made.payload : StageDialogue S) := by
  unfold ownStages ownCommits
  split <;> rfl

theorem macroblocks_ownCommits (frame : Frame S ν) :
    ∀ made ∈ frame.ownCommits, made.macroblocks = 0 := by
  unfold ownCommits
  split <;> simp

/-- Behind its own commits, a frame is left to its assembler and then executed. -/
theorem split_own {frame : Frame S ν} {own later work more : Dialogue S}
    {result : Except Interruption Batch} (succeed : Commit.AllSucceed frame.ownCommits own)
    (inOrder : StageDialogue.InOrder frame.stages {} work result)
    (same : own ++ later = work ++ more) :
    ∃ rest, work = own ++ rest ∧
      StageDialogue.InOrder [AssemblyDialogue frame.assembler, ExecutionDialogue frame.batchSize]
        ⟨frame.ownCommits.map Commit.descriptor⟩ rest result := by
  have first := succeed.inOrder frame.macroblocks_ownCommits {}
  rw [← ownStages_eq] at first
  rw [stages, List.append_assoc] at inOrder
  refine first.split ?_ inOrder same
  intro stage member
  exact stages_settle stage (List.mem_append_left _ (List.mem_append_left _ member))

/-! ### The check -/

/-- The descriptors of the session's own commits, and behind them those of the trials that
succeeded. -/
def descriptors (frame : Frame S ν) (trials : List (Trial S)) : List Descriptor :=
  frame.ownCommits.map Commit.descriptor ++ Trial.descriptors trials

/-- The kinds of all buffers that were committed for a frame. -/
def kinds (frame : Frame S ν) (trials : List (Trial S)) : List BufferKind :=
  (frame.descriptors trials).map Descriptor.kind

end Frame

/-- The kinds of the trials that succeeded. -/
def Trial.kinds (trials : List (Trial S)) : List BufferKind :=
  (descriptors trials).map Descriptor.kind

/-- The two faults of a batch are told apart. -/
theorem Panic.text_batchOrder_ne (one other : List BufferKind) :
    (batchOrder one).text ≠ (batchLength other).text := by
  intro same
  change "bitstream assembler must commit bitstream then slice control, got " ++ _ =
    "unexpected number of committed buffers: " ++ _ at same
  simp [← String.toList_inj] at same

namespace Frame

/-- What is wrong with a batch that is not to be executed. -/
def complaint (frame : Frame S ν) (trials : List (Trial S)) : Panic :=
  if (Trial.kinds trials).length = 2 then .batchOrder (frame.kinds trials)
  else .batchLength (frame.kinds trials)

theorem text_complaint (frame : Frame S ν) (trials : List (Trial S)) :
    (frame.complaint trials).text =
      (if (Trial.kinds trials).length = 2 then
          "bitstream assembler must commit bitstream then slice control, got "
        else "unexpected number of committed buffers: ")
        ++ BufferKind.listText (frame.kinds trials) := by
  unfold complaint
  split <;> rfl

/-- The message tells what is wrong with a batch and which buffers were committed. -/
theorem text_complaint_inj {frame other : Frame S ν} {trials tried : List (Trial S)} :
    (frame.complaint trials).text = (other.complaint tried).text ↔
      frame.complaint trials = other.complaint tried := by
  constructor
  · intro same
    unfold complaint at same ⊢
    by_cases two : (Trial.kinds trials).length = 2
    · by_cases also : (Trial.kinds tried).length = 2
      · rw [if_pos two, if_pos also] at same ⊢
        rw [BufferKind.listText_inj.mp ((String.append_right_inj _).mp same)]
      · rw [if_pos two, if_neg also] at same
        exact absurd same (Panic.text_batchOrder_ne _ _)
    · by_cases also : (Trial.kinds tried).length = 2
      · rw [if_neg two, if_pos also] at same
        exact absurd same.symm (Panic.text_batchOrder_ne _ _)
      · rw [if_neg two, if_neg also] at same ⊢
        rw [BufferKind.listText_inj.mp ((String.append_right_inj _).mp same)]
  · exact congrArg Panic.text

theorem kinds_eq (frame : Frame S ν) (trials : List (Trial S)) :
    frame.kinds trials = frame.ownCommits.map Commit.kind ++ Trial.kinds trials := by
  simp [kinds, descriptors, Trial.kinds, Commit.descriptor, Bytes.describe, Function.comp_def]

/-- The length of the batch and its last two buffers tell what the assembler has committed, because
the session's own commits come first. -/
theorem check_eq (frame : Frame S ν) (trials : List (Trial S)) :
    (⟨frame.descriptors trials⟩ : Batch).check frame.batchSize =
      if Trial.kinds trials = [.bitstream, .sliceControl] then .ok ()
      else .error (frame.complaint trials) := by
  have committed : (⟨frame.descriptors trials⟩ : Batch).kinds = frame.kinds trials := rfl
  have length : (frame.kinds trials).length =
      frame.ownCommits.length + (Trial.kinds trials).length := by
    simp [kinds_eq]
  rw [Batch.check, committed, length, batchSize_eq, complaint]
  by_cases two : (Trial.kinds trials).length = 2
  · have last : [.bitstream, .sliceControl].isSuffixOf (frame.kinds trials) =
        decide (Trial.kinds trials = [.bitstream, .sliceControl]) := by
      rw [Bool.eq_iff_iff, List.isSuffixOf_iff_suffix, decide_eq_true_iff, kinds_eq]
      constructor
      · intro suffix
        obtain ⟨front, same⟩ := suffix
        exact (List.append_inj' same two.symm).2.symm
      · intro same
        rw [same]
        exact List.suffix_append ..
    simp [two, last]
  · have others : Trial.kinds trials ≠ [.bitstream, .sliceControl] := by
      intro same
      simp [same] at two
    simp [two, others]

theorem length_descriptors {frame : Frame S ν} {trials : List (Trial S)}
    (both : Trial.kinds trials = [.bitstream, .sliceControl]) :
    (frame.descriptors trials).length = frame.batchSize := by
  have two := congrArg List.length both
  rw [Trial.kinds, List.length_map] at two
  simp [descriptors, two, batchSize_eq]

end Frame

/-! ### Submissions -/

/-- The submission unwinds from a panic that came up while its frame was open.  A second panic, of
the end of the frame, gives everything up. -/
def Program.UnwindsFrom (rest : Program S ν (Except Interruption Session)) (cause : Panic)
    (closed : Outcome Unit) : Prop :=
  (closed.Returned → rest = .done (.error (.panic cause))) ∧
    ∀ second, closed = .panicked second → ∃ resume, rest = .ask .abort resume

/-- The submission fails with an error that came up while its frame was open, unless the end of the
frame panics. -/
def Program.FailsWith (rest : Program S ν (Except Interruption Session)) (error : FrameError)
    (closed : Outcome Unit) : Prop :=
  (closed.Returned → rest = .done (.error (.failure error))) ∧
    ∀ cause, closed = .panicked cause → rest = .done (.error (.panic cause))

namespace Frame

/-- What is said behind the trials of an assembler, and what becomes of the submission. -/
structure Judged (frame : Frame S ν) (trials : List (Trial S)) (ended : Except Interruption Unit)
    (tail : Dialogue S) (rest : Program S ν (Except Interruption Session)) : Prop where
  executed : ended = .ok () → Trial.kinds trials = [.bitstream, .sliceControl] →
    (∃ submitted closed,
        tail = [⟨.submitBuffers (frame.descriptors trials), submitted⟩, ⟨.endFrame, closed⟩]) ∧
      (frame.descriptors trials).length = frame.batchSize
  refused : ended = .ok () → Trial.kinds trials ≠ [.bitstream, .sliceControl] →
    (∃ closed, tail = [⟨.endFrame, closed⟩] ∧ rest.UnwindsFrom (frame.complaint trials) closed) ∧
      (frame.complaint trials).text =
        (if (Trial.kinds trials).length = 2 then
            "bitstream assembler must commit bitstream then slice control, got "
          else "unexpected number of committed buffers: ")
          ++ BufferKind.listText (frame.kinds trials)
  failed : ∀ error, ended = .error (.failure error) →
    ∃ closed, tail = [⟨.endFrame, closed⟩] ∧ rest.FailsWith error closed
  panicked : ∀ cause, ended = .error (.panic cause) →
    ∃ closed, tail = [⟨.endFrame, closed⟩] ∧ rest.UnwindsFrom cause closed

end Frame

/-- What the submission of a frame comes to when the work on the frame and the end of the frame went
so. -/
inductive Program.Concludes (worked : Except Interruption Batch) (closed : Outcome Unit)
    (rest : Program S ν (Except Interruption Session)) : Prop where
  | finished (session : Session) (result : Except Interruption Unit)
      (conclusion : Conclusion worked closed result)
      (same : rest = .done (result.map fun _ => session))
  | aborted (first second : Panic) (unwinding : worked = .error (.panic first))
      (again : closed = .panicked second) (same : ∃ resume, rest = .ask .abort resume)

namespace Program.Concludes

variable {closed : Outcome Unit} {rest : Program S ν (Except Interruption Session)}

theorem unwindsFrom {cause : Panic} (concludes : rest.Concludes (.error (.panic cause)) closed) :
    rest.UnwindsFrom cause closed := by
  cases concludes with
  | finished session result conclusion same =>
      cases conclusion with
      | workPanicked _ returned =>
          refine ⟨fun _ => same, ?_⟩
          intro second panicked
          subst panicked
          cases returned
  | aborted first second unwinding again same =>
      subst again
      exact ⟨nofun, fun _ _ => same⟩

theorem failsWith {error : FrameError}
    (concludes : rest.Concludes (.error (.failure error)) closed) :
    rest.FailsWith error closed := by
  cases concludes with
  | finished session result conclusion same =>
      cases conclusion with
      | workFailed _ returned =>
          refine ⟨fun _ => same, ?_⟩
          intro cause panicked
          subst panicked
          cases returned
      | endPanickedLater _ cause =>
          refine ⟨nofun, ?_⟩
          intro second panicked
          cases panicked
          exact same
  | aborted first second unwinding => cases unwinding

end Program.Concludes

/-- A last stage is all that is left. -/
theorem StageDialogue.InOrder.of_single {stage : StageDialogue S} {batch : Batch}
    {said : Dialogue S} {result : Except Interruption Batch}
    (inOrder : InOrder [stage] batch said result) : stage batch said result := by
  cases inOrder with
  | stops interrupted => exact interrupted
  | goesOn succeeded later =>
      cases later
      rw [List.append_nil]
      exact succeeded

namespace Frame

variable {frame : Frame S ν} {closed : Outcome Unit}
  {rest : Program S ν (Except Interruption Session)}

/-- An assembler that was interrupted ends the work on its frame. -/
theorem judged_of_interrupted {interruption : Interruption} (trials : List (Trial S))
    (concludes : rest.Concludes (.error interruption) closed) :
    frame.Judged trials (.error interruption) [⟨.endFrame, closed⟩] rest where
  executed := nofun
  refused := nofun
  failed error same := by
    cases same
    exact ⟨closed, rfl, concludes.failsWith⟩
  panicked cause same := by
    cases same
    exact ⟨closed, rfl, concludes.unwindsFrom⟩

/-- The batch of an assembler that finished is checked, and executed if it passes. -/
theorem judged_of_finished {trials : List (Trial S)} {said : Dialogue S}
    {worked : Except Interruption Batch}
    (execution : ExecutionDialogue frame.batchSize ⟨frame.descriptors trials⟩ said worked)
    (concludes : rest.Concludes worked closed) :
    frame.Judged trials (.ok ()) (said ++ [⟨.endFrame, closed⟩]) rest := by
  by_cases both : Trial.kinds trials = [.bitstream, .sliceControl]
  · refine
      ⟨fun _ _ => ⟨?_, length_descriptors both⟩, fun _ others => absurd both others, nofun, nofun⟩
    cases execution with
    | misshapen checked => simp [check_eq, both] at checked
    | executed | failed | panicked => exact ⟨_, closed, rfl⟩
  · refine ⟨fun _ same => absurd same both, fun _ _ => ⟨?_, text_complaint ..⟩, nofun, nofun⟩
    cases execution with
    | executed checked | failed checked | panicked checked => simp [check_eq, both] at checked
    | misshapen checked =>
        simp only [check_eq, both, if_false, Except.error.injEq] at checked
        subst checked
        exact ⟨closed, rfl, concludes.unwindsFrom⟩

/-- Behind its own commits, a frame is judged by the trials of its assembler. -/
theorem exists_judged {work : Dialogue S} {worked : Except Interruption Batch}
    (inOrder : StageDialogue.InOrder
      [AssemblyDialogue frame.assembler, ExecutionDialogue frame.batchSize]
      ⟨frame.ownCommits.map Commit.descriptor⟩ work worked)
    (concludes : rest.Concludes worked closed) :
    ∃ trials ended tail, work ++ [⟨.endFrame, closed⟩] = Trial.dialogue trials ++ tail ∧
      frame.assembler.Tries (frame.ownCommits.map Commit.descriptor) trials ended ∧
        frame.Judged trials ended tail rest := by
  cases inOrder with
  | stops interrupted =>
      obtain ⟨trials, ended, tries, rfl, left⟩ := interrupted.exists_tries
      cases ended with
      | ok _ => cases left
      | error interruption =>
          cases left
          exact ⟨trials, _, _, rfl, tries, judged_of_interrupted trials concludes⟩
  | goesOn assembled later =>
      obtain ⟨trials, ended, tries, rfl, left⟩ := assembled.exists_tries
      cases ended with
      | error interruption => cases left
      | ok _ =>
          cases left
          exact ⟨trials, _, _, List.append_assoc .., tries,
            judged_of_finished later.of_single concludes⟩

end Frame

/-! ### Where batches are submitted -/

/-- A batch is submitted somewhere in the dialogue. -/
def Submits (said : Dialogue S) : Prop :=
  ∃ batch outcome, ⟨.submitBuffers batch, outcome⟩ ∈ said

theorem submits_append {front back : Dialogue S} :
    Submits (front ++ back) ↔ Submits front ∨ Submits back := by
  simp only [Submits, List.mem_append, exists_or]

theorem BeginDialogue.not_submits {policy : RetryPolicy} {surface : S} {said : Dialogue S}
    (began : BeginDialogue policy surface said (.ok ())) : ¬Submits said := by
  cases began
  simp [Submits, busyBegins]

theorem CommitDialogue.not_submits {kind : BufferKind} {payload : Bytes} {macroblocks : UInt32}
    {said : Dialogue S} {result : Except Interruption Descriptor}
    (agrees : CommitDialogue kind payload macroblocks said result) : ¬Submits said := by
  cases agrees <;> simp [Submits]

theorem Commit.AllSucceed.not_submits {commits : List Commit} {said : Dialogue S}
    (succeed : Commit.AllSucceed commits said) : ¬Submits said := by
  induction succeed with
  | nil => simp [Submits]
  | cons first _ inductionHypothesis =>
      rw [submits_append, not_or]
      exact ⟨CommitDialogue.not_submits first, inductionHypothesis⟩

theorem Trial.not_submits (trials : List (Trial S)) : ¬Submits (dialogue trials) := by
  induction trials with
  | nil => simp [Submits]
  | cons trial trials inductionHypothesis =>
      rw [dialogue_cons, submits_append, not_or]
      exact ⟨trial.agrees.not_submits, inductionHypothesis⟩

theorem Frame.Judged.submits_iff {frame : Frame S ν} {trials : List (Trial S)}
    {ended : Except Interruption Unit} {tail : Dialogue S}
    {rest : Program S ν (Except Interruption Session)}
    (judged : frame.Judged trials ended tail rest) :
    Submits tail ↔ ended = .ok () ∧ Trial.kinds trials = [.bitstream, .sliceControl] := by
  rcases ended with (error | cause) | _
  · obtain ⟨closed, rfl, _⟩ := judged.failed error rfl
    simp [Submits]
  · obtain ⟨closed, rfl, _⟩ := judged.panicked cause rfl
    simp [Submits]
  · by_cases both : Trial.kinds trials = [.bitstream, .sliceControl]
    · obtain ⟨⟨submitted, closed, rfl⟩, _⟩ := judged.executed rfl both
      simp [Submits, both]
    · obtain ⟨⟨closed, rfl, _⟩, _⟩ := judged.refused rfl both
      simp [Submits, both]

/-! ### Submissions over a backend -/

/-- Behind the commits of the session itself, what was said in the submission of a frame tells which
commits the assembler tried and how it ended.  The batch is submitted exactly if the assembler
finished and a bitstream and the slice control data were committed, and nothing else. -/
structure Backend.ChecksBatches (backend : Backend S σ ο) (session : Session) (frame : Frame S ν)
    (world : World σ) : Prop where
  stops : ∃ trace journal rest after,
    backend.environment.Reaches (session.submit frame).run world trace journal rest after ∧
      rest.IsOver
  checked : ∀ {trace journal rest after opening own later},
    backend.environment.Reaches (session.submit frame).run world trace journal rest after →
      rest.IsOver → driverCalls trace = opening ++ own ++ later →
        BeginDialogue session.retry frame.surface opening (.ok ()) →
          Commit.AllSucceed frame.ownCommits own →
            ∃ trials ended tail, later = Trial.dialogue trials ++ tail ∧
              frame.assembler.Tries (frame.ownCommits.map Commit.descriptor) trials ended ∧
                frame.Judged trials ended tail rest ∧
                  (Submits (driverCalls trace) ↔
                    ended = .ok () ∧ Trial.kinds trials = [.bitstream, .sliceControl])
  /-- The trials and the end of the assembler are read off the dialogue in one way. -/
  settled : ∀ {trials others : List (Trial S)} {ended finished early late},
    frame.assembler.Tries (frame.ownCommits.map Commit.descriptor) trials ended →
      frame.assembler.Tries (frame.ownCommits.map Commit.descriptor) others finished →
        Trial.dialogue trials ++ early = Trial.dialogue others ++ late →
          trials = others ∧ ended = finished

/-- A submission that is over has worked on its frame and ended it. -/
theorem exists_concludes {backend : Backend S σ ο} {session : Session} {frame : Frame S ν}
    {world after : World σ} {trace : List (Exchange S ν)} {journal : List (Entry ο ν)}
    {rest : Program S ν (Except Interruption Session)} {opening later : Dialogue S}
    (reached : backend.environment.Reaches (session.submit frame).run world trace journal rest
      after)
    (isOver : rest.IsOver) (said : driverCalls trace = opening ++ later)
    (began : BeginDialogue session.retry frame.surface opening (.ok ())) :
    ∃ work worked closed, later = work ++ [⟨.endFrame, closed⟩] ∧
      StageDialogue.InOrder frame.stages {} work worked ∧ rest.Concludes worked closed := by
  have spoken := submit_speaks.of_reaches_recording reached
  rw [said] at spoken
  cases rest with
  | done result =>
      obtain ⟨outcome, agrees, rfl⟩ := Program.obeys_done.mp spoken
      generalize same : opening ++ later = whole at agrees
      cases agrees with
      | notBegun failed =>
          rw [← List.append_nil whole] at same
          cases (BeginDialogue.settles began failed same).2
      | ended again inOrder conclusion =>
          rw [List.append_assoc] at same
          obtain ⟨rfl, _⟩ := BeginDialogue.settles began again same
          exact ⟨_, _, _, List.append_cancel_left same, inOrder, .finished _ _ conclusion rfl⟩
  | ask request resume =>
      cases request with
      | abort =>
          obtain ⟨front, work, first, second, again, inOrder, same⟩ :=
            (Program.obeys_ask.mp spoken).1
          rw [List.append_assoc] at same
          obtain ⟨rfl, _⟩ := BeginDialogue.settles began again same
          exact ⟨work, _, _, List.append_cancel_left same, inOrder,
            .aborted first second rfl rfl ⟨resume, rfl⟩⟩
      | _ => exact False.elim isOver

theorem batches_are_checked {backend : Backend S σ ο} {session : Session} {frame : Frame S ν}
    {world : World σ} (free : world.locks.isFree session.lock = true) :
    backend.ChecksBatches session frame world where
  stops := by
    obtain ⟨trace, journal, rest, after, reached, stopped⟩ := (brackets_of_isFree free).stops
    refine ⟨trace, journal, rest, after, reached, ?_⟩
    rcases stopped with ⟨result, rfl⟩ | ⟨⟨resume, rfl⟩, _⟩
    · trivial
    · trivial
  checked := by
    intro trace journal rest after opening own later reached isOver said began succeed
    rw [List.append_assoc] at said
    obtain ⟨work, worked, closed, same, inOrder, concludes⟩ :=
      exists_concludes reached isOver said began
    obtain ⟨assembled, rfl, left⟩ := Frame.split_own succeed inOrder same
    obtain ⟨trials, ended, tail, equal, tries, judged⟩ := Frame.exists_judged left concludes
    rw [List.append_assoc] at same
    have behind := (List.append_cancel_left same).trans equal
    refine ⟨trials, ended, tail, behind, tries, judged, ?_⟩
    rw [said, behind, submits_append, submits_append, submits_append, judged.submits_iff]
    simp [began.not_submits, succeed.not_submits, Trial.not_submits]
  settled tries again same := tries.settles again same

/-- A frame with a matrix, whose assembler tries a payload that is too large and then commits its
two buffers the wrong way round. -/
def Frame.crossed : Frame NamedSurface Empty where
  surface := { name := "s", slice := 0 }
  pictureParameters := [1]
  quantMatrix := [2]
  assembler :=
    .commit .bitstream [3, 4, 5] 0 fun _ =>
      .commit .sliceControl [3] 1 fun _ => .commit .bitstream [4] 1 fun _ => .finish

theorem crossed_batch_is_checked :
    ({} : Locks).isFree (.mutex 0) = true ∧
      Scripted.context.ChecksBatches { format := .textureArray, lock := .mutex 0 } Frame.crossed
        { driver := { script := { capacity := 2 } } } :=
  ⟨rfl, batches_are_checked rfl⟩

/-- The batch is refused, and the frame is ended. -/
example :
    (Scripted.context.run
        (Session.submit { format := .textureArray, lock := .mutex 0 } Frame.crossed).run
        { driver := { script := { capacity := 2 } } }).map
        (fun finished =>
          match finished.value with
          | .error (.panic cause) => cause.text
          | _ => "") =
      some ("bitstream assembler must commit bitstream then slice control, got "
        ++ "[PictureParameters, InverseQuantizationMatrix, SliceControl, Bitstream]") := by
  decide +kernel

end HardwareDecode
