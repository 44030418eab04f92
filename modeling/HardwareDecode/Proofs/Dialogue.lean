/-
Module: HardwareDecode.Proofs.Dialogue
Purpose: What a session and its driver say to each other during a submission, written down as a
  grammar of calls with their outcomes.  The grammar knows nothing of locks, waits and messages; it
  says which call comes after which outcome, and what becomes of the submission.
Main exports: Answered, Dialogue, driverCalls, BeginDialogue, CommitDialogue, AssemblyDialogue,
  StageDialogue, StageDialogue.InOrder, Frame.stages, SubmissionDialogue, AbortedDialogue,
  SubmissionDialogue.unique
-/
import HardwareDecode.Effect.Trace
import HardwareDecode.Session

namespace HardwareDecode

/-- A driver call with its outcome. -/
structure Answered (S : Type) where
  call : Call S
  outcome : Outcome call.Answer

abbrev Dialogue (S : Type) := List (Answered S)

variable {S ν : Type}

/-- The driver call in an exchange, if it is one. -/
def Exchange.answered? : Exchange S ν → Option (Answered S)
  | ⟨.call call, outcome⟩ => some ⟨call, outcome⟩
  | _ => none

/-- The driver calls among a sequence of exchanges. -/
def driverCalls (trace : List (Exchange S ν)) : Dialogue S :=
  trace.filterMap Exchange.answered?

theorem driverCalls_append (front back : List (Exchange S ν)) :
    driverCalls (front ++ back) = driverCalls front ++ driverCalls back :=
  List.filterMap_append

/-! ### Begins -/

/-- Begins that find the device busy. -/
def busyBegins (surface : S) (count : Nat) : Dialogue S :=
  List.replicate count ⟨.beginFrame surface, .failed .pending⟩

/-- A begin is repeated while the device is busy, at most as often as the policy says, and never
for another reason. -/
inductive BeginDialogue (policy : RetryPolicy) (surface : S) :
    Dialogue S → Except Interruption Unit → Prop where
  | began {busy : Nat} (fewer : busy < policy.maxAttempts.toNat) :
      BeginDialogue policy surface (busyBegins surface busy ++ [⟨.beginFrame surface, .ok ()⟩])
        (.ok ())
  | stillBusy :
      BeginDialogue policy surface (busyBegins surface policy.maxAttempts.toNat)
        (.error (.failure (.stillBusy policy.maxAttempts)))
  | failed {busy : Nat} (fewer : busy < policy.maxAttempts.toNat) {status : Status}
      (final : status ≠ .pending) :
      BeginDialogue policy surface
        (busyBegins surface busy ++ [⟨.beginFrame surface, .failed status⟩])
        (.error (.failure (.driver .beginFrame status)))
  | panicked {busy : Nat} (fewer : busy < policy.maxAttempts.toNat) (cause : Panic) :
      BeginDialogue policy surface
        (busyBegins surface busy ++ [⟨.beginFrame surface, .panicked cause⟩])
        (.error (.panic cause))

/-! ### Commits -/

/-- Whether a payload can be written into a lent buffer and described. -/
def Bytes.Fits (payload lent : Bytes) : Prop :=
  payload.length < UInt32.size ∧ payload.length ≤ lent.length

/-- The descriptor of a payload of a given kind. -/
def Bytes.describe (payload : Bytes) (kind : BufferKind) (macroblocks : UInt32) : Descriptor :=
  { kind, dataSize := UInt32.ofNat payload.length, macroblocks }

/-- A buffer that was lent is given back, whether or not the payload fits, and a release that fails
hides that it did not. -/
inductive CommitDialogue (kind : BufferKind) (payload : Bytes) (macroblocks : UInt32) :
    Dialogue S → Except Interruption Descriptor → Prop where
  | getFailed (status : Status) :
      CommitDialogue kind payload macroblocks [⟨.getBuffer kind, .failed status⟩]
        (.error (.failure (.driver (.getBuffer kind) status)))
  | getPanicked (cause : Panic) :
      CommitDialogue kind payload macroblocks [⟨.getBuffer kind, .panicked cause⟩]
        (.error (.panic cause))
  | releaseFailed (lent : Bytes) (status : Status) :
      CommitDialogue kind payload macroblocks
        [⟨.getBuffer kind, .ok lent⟩, ⟨.releaseBuffer kind, .failed status⟩]
        (.error (.failure (.driver (.releaseBuffer kind) status)))
  | releasePanicked (lent : Bytes) (cause : Panic) :
      CommitDialogue kind payload macroblocks
        [⟨.getBuffer kind, .ok lent⟩, ⟨.releaseBuffer kind, .panicked cause⟩]
        (.error (.panic cause))
  | tooSmall {lent : Bytes} (large : ¬payload.Fits lent) :
      CommitDialogue kind payload macroblocks
        [⟨.getBuffer kind, .ok lent⟩, ⟨.releaseBuffer kind, .ok ()⟩]
        (.error (.failure (.bufferTooSmall kind payload.length lent.length)))
  | committed {lent : Bytes} (fits : payload.Fits lent) :
      CommitDialogue kind payload macroblocks
        [⟨.getBuffer kind, .ok lent⟩, ⟨.releaseBuffer kind, .ok ()⟩]
        (.ok (payload.describe kind macroblocks))

/-! ### Stages of the work on a frame -/

/-- A stage of the work on a frame: what is said in it from a batch, and the batch it leaves. -/
abbrev StageDialogue (S : Type) := Batch → Dialogue S → Except Interruption Batch → Prop

/-- A strategy is told how each of its commits went; its own error is passed on as it is. -/
inductive AssemblyDialogue : Assembler ν → StageDialogue S where
  | finish (batch : Batch) : AssemblyDialogue .finish batch [] (.ok batch)
  | fail (error : FrameError) (batch : Batch) :
      AssemblyDialogue (.fail error) batch [] (.error (.failure error))
  | panic (cause : Panic) (batch : Batch) :
      AssemblyDialogue (.panic cause) batch [] (.error (.panic cause))
  | commitSucceeds {kind : BufferKind} {payload : Bytes} {macroblocks : UInt32}
      {next : Except FrameError Descriptor → Assembler ν} {batch : Batch}
      {descriptor : Descriptor} {front back : Dialogue S} {result : Except Interruption Batch}
      (committed : CommitDialogue kind payload macroblocks front (.ok descriptor))
      (later : AssemblyDialogue (next (.ok descriptor)) (batch.push descriptor) back result) :
      AssemblyDialogue (.commit kind payload macroblocks next) batch (front ++ back) result
  | commitFails {kind : BufferKind} {payload : Bytes} {macroblocks : UInt32}
      {next : Except FrameError Descriptor → Assembler ν} {batch : Batch} {error : FrameError}
      {front back : Dialogue S} {result : Except Interruption Batch}
      (committed : CommitDialogue kind payload macroblocks front (.error (.failure error)))
      (later : AssemblyDialogue (next (.error error)) batch back result) :
      AssemblyDialogue (.commit kind payload macroblocks next) batch (front ++ back) result
  | commitPanics {kind : BufferKind} {payload : Bytes} {macroblocks : UInt32}
      {next : Except FrameError Descriptor → Assembler ν} {batch : Batch} {cause : Panic}
      {dialogue : Dialogue S}
      (committed : CommitDialogue kind payload macroblocks dialogue (.error (.panic cause))) :
      AssemblyDialogue (.commit kind payload macroblocks next) batch dialogue
        (.error (.panic cause))
  | inspect {next : List Descriptor → Assembler ν} {batch : Batch} {dialogue : Dialogue S}
      {result : Except Interruption Batch}
      (later : AssemblyDialogue (next batch.descriptors) batch dialogue result) :
      AssemblyDialogue (.inspect next) batch dialogue result
  | note {mark : ν} {next : Assembler ν} {batch : Batch} {dialogue : Dialogue S}
      {result : Except Interruption Batch} (later : AssemblyDialogue next batch dialogue result) :
      AssemblyDialogue (.note mark next) batch dialogue result

/-- A batch is executed if it has the shape and the number of buffers that the driver expects. -/
inductive ExecutionDialogue (expected : Nat) : StageDialogue S where
  | misshapen {batch : Batch} {cause : Panic} (checked : batch.check expected = .error cause) :
      ExecutionDialogue expected batch [] (.error (.panic cause))
  | executed {batch : Batch} (checked : batch.check expected = .ok ()) :
      ExecutionDialogue expected batch [⟨.submitBuffers batch.descriptors, .ok ()⟩] (.ok batch)
  | failed {batch : Batch} (checked : batch.check expected = .ok ()) (status : Status) :
      ExecutionDialogue expected batch [⟨.submitBuffers batch.descriptors, .failed status⟩]
        (.error (.failure (.driver .execute status)))
  | panicked {batch : Batch} (checked : batch.check expected = .ok ()) (cause : Panic) :
      ExecutionDialogue expected batch [⟨.submitBuffers batch.descriptors, .panicked cause⟩]
        (.error (.panic cause))

namespace StageDialogue

/-- The commit of a payload by the session itself. -/
def commit (kind : BufferKind) (payload : Bytes) : StageDialogue S := fun batch dialogue result =>
  ∃ committed, CommitDialogue kind payload 0 dialogue committed ∧
    result = committed.map batch.push

/-- Stages are gone through in order up to the first that is interrupted, and nothing is said for
those after it. -/
inductive InOrder : List (StageDialogue S) → StageDialogue S where
  | done (batch : Batch) : InOrder [] batch [] (.ok batch)
  | stops {stage : StageDialogue S} {later : List (StageDialogue S)} {batch : Batch}
      {dialogue : Dialogue S} {interruption : Interruption}
      (interrupted : stage batch dialogue (.error interruption)) :
      InOrder (stage :: later) batch dialogue (.error interruption)
  | goesOn {stage : StageDialogue S} {later : List (StageDialogue S)} {batch between : Batch}
      {front back : Dialogue S} {result : Except Interruption Batch}
      (succeeded : stage batch front (.ok between)) (rest : InOrder later between back result) :
      InOrder (stage :: later) batch (front ++ back) result

end StageDialogue

/-- The stages in which the session commits payloads of its own.  There is one for the matrix only
if the frame has one. -/
def Frame.ownStages (frame : Frame S ν) : List (StageDialogue S) :=
  [.commit .pictureParameters frame.pictureParameters]
    ++ if frame.quantMatrix.isEmpty then []
      else [.commit .inverseQuantizationMatrix frame.quantMatrix]

/-- The stages of the work on a frame. -/
def Frame.stages (frame : Frame S ν) : List (StageDialogue S) :=
  frame.ownStages ++ [AssemblyDialogue frame.assembler] ++ [ExecutionDialogue frame.batchSize]

/-! ### Submissions -/

/-- The call came back, failed or not. -/
inductive Outcome.Returned {α : Type} : Outcome α → Prop where
  | ok (value : α) : Returned (.ok value)
  | failed (status : Status) : Returned (.failed status)

/-- What becomes of a submission whose frame was worked on and then ended: the failure to end it
counts only after work without a failure, and its panic only after work without a panic. -/
inductive Conclusion :
    Except Interruption Batch → Outcome Unit → Except Interruption Unit → Prop where
  | decoded (batch : Batch) : Conclusion (.ok batch) (.ok ()) (.ok ())
  | endFailed (batch : Batch) (status : Status) :
      Conclusion (.ok batch) (.failed status) (.error (.failure (.driver .endFrame status)))
  | endPanicked (batch : Batch) (cause : Panic) :
      Conclusion (.ok batch) (.panicked cause) (.error (.panic cause))
  | workFailed (error : FrameError) {ended : Outcome Unit} (returned : ended.Returned) :
      Conclusion (.error (.failure error)) ended (.error (.failure error))
  | endPanickedLater (error : FrameError) (cause : Panic) :
      Conclusion (.error (.failure error)) (.panicked cause) (.error (.panic cause))
  | workPanicked (cause : Panic) {ended : Outcome Unit} (returned : ended.Returned) :
      Conclusion (.error (.panic cause)) ended (.error (.panic cause))

/-- A frame that began is worked on and then ended, however the work went. -/
inductive SubmissionDialogue (policy : RetryPolicy) (frame : Frame S ν) :
    Dialogue S → Except Interruption Unit → Prop where
  | notBegun {dialogue : Dialogue S} {interruption : Interruption}
      (opening : BeginDialogue policy frame.surface dialogue (.error interruption)) :
      SubmissionDialogue policy frame dialogue (.error interruption)
  | ended {front work : Dialogue S} {worked : Except Interruption Batch} {outcome : Outcome Unit}
      {result : Except Interruption Unit}
      (opening : BeginDialogue policy frame.surface front (.ok ()))
      (inOrder : StageDialogue.InOrder frame.stages {} work worked)
      (conclusion : Conclusion worked outcome result) :
      SubmissionDialogue policy frame (front ++ work ++ [⟨.endFrame, outcome⟩]) result

/-- A submission is given up when the end of a frame panics while a panic of the work unwinds. -/
def AbortedDialogue (policy : RetryPolicy) (frame : Frame S ν) (dialogue : Dialogue S) : Prop :=
  ∃ front work first second,
    BeginDialogue policy frame.surface front (.ok ()) ∧
      StageDialogue.InOrder frame.stages {} work (.error (.panic first)) ∧
        dialogue = front ++ work ++ [⟨.endFrame, .panicked second⟩]

/-! ### Dialogues settle results -/

/-- Whoever hears one of these dialogues knows where it ends and what came of it. -/
def Settles {α : Type} (grammar : Dialogue S → α → Prop) : Prop :=
  ∀ {front back early late : Dialogue S} {first second : α}, grammar front first →
    grammar back second → front ++ early = back ++ late → front = back ∧ first = second

/-- A begin that does not find the device busy stands behind all that do. -/
theorem busyBegins_le {surface : S} {count other : Nat} {last : Answered S}
    {early late : Dialogue S} (settled : last ≠ ⟨.beginFrame surface, .failed .pending⟩)
    (same : busyBegins surface count ++ last :: early = busyBegins surface other ++ late) :
    other ≤ count := by
  apply Nat.le_of_not_lt
  intro below
  have found := congrArg (fun dialogue => dialogue[count]?) same
  simp only [busyBegins, List.getElem?_append, List.length_replicate, List.getElem?_replicate,
    Nat.lt_irrefl, below, Nat.sub_self, ↓reduceIte, List.getElem?_cons_zero,
    Option.some.injEq] at found
  exact settled found

/-- A begin ends with the device still busy, or with an attempt that does not find it so. -/
theorem BeginDialogue.cases_last {policy : RetryPolicy} {surface : S} {dialogue : Dialogue S}
    {result : Except Interruption Unit} (said : BeginDialogue policy surface dialogue result) :
    (dialogue = busyBegins surface policy.maxAttempts.toNat ∧
        result = .error (.failure (.stillBusy policy.maxAttempts))) ∨
      ∃ busy outcome, busy < policy.maxAttempts.toNat ∧ outcome ≠ .failed .pending ∧
        dialogue = busyBegins surface busy ++ [⟨.beginFrame surface, outcome⟩] ∧
          result = match outcome with
            | .ok _ => .ok ()
            | .failed status => .error (.failure (.driver .beginFrame status))
            | .panicked cause => .error (.panic cause) := by
  cases said with
  | stillBusy => exact .inl ⟨rfl, rfl⟩
  | began fewer => exact .inr ⟨_, .ok (), fewer, nofun, rfl, rfl⟩
  | failed fewer final =>
      exact .inr ⟨_, .failed _, fewer, fun same => final (Outcome.failed.inj same), rfl, rfl⟩
  | panicked fewer cause => exact .inr ⟨_, .panicked cause, fewer, nofun, rfl, rfl⟩

theorem BeginDialogue.settles {policy : RetryPolicy} {surface : S} :
    Settles (BeginDialogue policy surface) := by
  intro front back early late first second one other same
  rcases one.cases_last with ⟨rfl, rfl⟩ | ⟨busy, outcome, fewer, final, rfl, rfl⟩
  · rcases other.cases_last with ⟨rfl, rfl⟩ | ⟨busy, outcome, fewer, final, rfl, rfl⟩
    · exact ⟨rfl, rfl⟩
    · rw [List.append_assoc] at same
      have more := busyBegins_le (by simpa using final) same.symm
      omega
  · rcases other.cases_last with ⟨rfl, rfl⟩ | ⟨count, found, less, settled, rfl, rfl⟩
    · rw [List.append_assoc] at same
      have more := busyBegins_le (by simpa using final) same
      omega
    · rw [List.append_assoc, List.append_assoc] at same
      have upper := busyBegins_le (by simpa using final) same
      have lower := busyBegins_le (by simpa using settled) same.symm
      obtain rfl : busy = count := Nat.le_antisymm lower upper
      have heads := List.append_cancel_left same
      simp only [List.cons_append, List.nil_append, List.cons.injEq, Answered.mk.injEq, heq_eq_eq,
        true_and] at heads
      obtain ⟨rfl, _⟩ := heads
      exact ⟨rfl, rfl⟩

theorem CommitDialogue.settles {kind : BufferKind} {payload : Bytes} {macroblocks : UInt32} :
    Settles (CommitDialogue kind payload macroblocks : Dialogue S → _ → Prop) := by
  intro front back early late first second one other same
  cases one <;> cases other <;> simp_all

theorem StageDialogue.commit_settles {kind : BufferKind} {payload : Bytes} {batch : Batch} :
    Settles (StageDialogue.commit kind payload batch : Dialogue S → _ → Prop) := by
  rintro front back early late _ _ ⟨first, one, rfl⟩ ⟨second, other, rfl⟩ same
  obtain ⟨rfl, rfl⟩ := CommitDialogue.settles one other same
  exact ⟨rfl, rfl⟩

theorem AssemblyDialogue.settles {assembler : Assembler ν} {batch : Batch} :
    Settles (AssemblyDialogue assembler batch : Dialogue S → _ → Prop) := by
  intro front back early late first second one
  induction one generalizing back late second with
  | finish | fail | panic =>
      intro other _
      cases other
      exact ⟨rfl, rfl⟩
  | commitSucceeds committed _ inductionHypothesis =>
      intro other same
      cases other with
      | commitSucceeds again later =>
          rw [List.append_assoc, List.append_assoc] at same
          obtain ⟨rfl, equal⟩ := CommitDialogue.settles committed again same
          cases equal
          obtain ⟨rfl, rfl⟩ := inductionHypothesis later (List.append_cancel_left same)
          exact ⟨rfl, rfl⟩
      | commitFails again later =>
          rw [List.append_assoc, List.append_assoc] at same
          cases (CommitDialogue.settles committed again same).2
      | commitPanics again =>
          rw [List.append_assoc] at same
          cases (CommitDialogue.settles committed again same).2
  | commitFails committed _ inductionHypothesis =>
      intro other same
      cases other with
      | commitSucceeds again later =>
          rw [List.append_assoc, List.append_assoc] at same
          cases (CommitDialogue.settles committed again same).2
      | commitFails again later =>
          rw [List.append_assoc, List.append_assoc] at same
          obtain ⟨rfl, equal⟩ := CommitDialogue.settles committed again same
          cases equal
          obtain ⟨rfl, rfl⟩ := inductionHypothesis later (List.append_cancel_left same)
          exact ⟨rfl, rfl⟩
      | commitPanics again =>
          rw [List.append_assoc] at same
          cases (CommitDialogue.settles committed again same).2
  | commitPanics committed =>
      intro other same
      cases other with
      | commitSucceeds again later | commitFails again later =>
          rw [List.append_assoc] at same
          cases (CommitDialogue.settles committed again same).2
      | commitPanics again =>
          obtain ⟨rfl, equal⟩ := CommitDialogue.settles committed again same
          cases equal
          exact ⟨rfl, rfl⟩
  | inspect _ inductionHypothesis | note _ inductionHypothesis =>
      intro other same
      cases other with
      | _ later => exact inductionHypothesis later same

theorem ExecutionDialogue.settles {expected : Nat} {batch : Batch} :
    Settles (ExecutionDialogue expected batch : Dialogue S → _ → Prop) := by
  intro front back early late first second one other same
  cases one <;> cases other <;> simp_all

theorem StageDialogue.InOrder.settles {stages : List (StageDialogue S)} {batch : Batch}
    (each : ∀ stage ∈ stages, ∀ batch, Settles (stage batch)) :
    Settles (StageDialogue.InOrder stages batch) := by
  intro front back early late first second one
  induction one generalizing back late second with
  | done batch =>
      intro other _
      cases other
      exact ⟨rfl, rfl⟩
  | stops interrupted =>
      intro other same
      cases other with
      | stops again => exact each _ (List.mem_cons_self ..) _ interrupted again same
      | goesOn again later =>
          rw [List.append_assoc] at same
          cases (each _ (List.mem_cons_self ..) _ interrupted again same).2
  | goesOn succeeded _ inductionHypothesis =>
      intro other same
      cases other with
      | stops again =>
          rw [List.append_assoc] at same
          cases (each _ (List.mem_cons_self ..) _ succeeded again same).2
      | goesOn again later =>
          rw [List.append_assoc, List.append_assoc] at same
          obtain ⟨rfl, equal⟩ := each _ (List.mem_cons_self ..) _ succeeded again same
          cases equal
          obtain ⟨rfl, rfl⟩ := inductionHypothesis
            (fun stage member => each stage (List.mem_cons_of_mem _ member)) later
            (List.append_cancel_left same)
          exact ⟨rfl, rfl⟩

/-- What holds of commits, of the assembly and of the execution holds of all stages. -/
theorem Frame.stages_forall {frame : Frame S ν} {motive : StageDialogue S → Prop}
    (commits : ∀ kind payload, motive (.commit kind payload))
    (assembly : motive (AssemblyDialogue frame.assembler))
    (execution : motive (ExecutionDialogue frame.batchSize)) :
    ∀ stage ∈ frame.stages, motive stage := by
  intro stage member
  simp only [stages, ownStages, List.mem_append, List.mem_singleton] at member
  rcases member with ((rfl | own) | rfl) | rfl
  · exact commits _ _
  · split at own
    · cases own
    · rw [List.mem_singleton.mp own]
      exact commits _ _
  · exact assembly
  · exact execution

theorem Frame.stages_settle {frame : Frame S ν} :
    ∀ stage ∈ frame.stages, ∀ batch, Settles (stage batch) :=
  stages_forall (fun _ _ _ => StageDialogue.commit_settles) (fun _ => AssemblyDialogue.settles)
    (fun _ => ExecutionDialogue.settles)

theorem Conclusion.unique {worked : Except Interruption Batch} {outcome : Outcome Unit}
    {first second : Except Interruption Unit} (one : Conclusion worked outcome first)
    (other : Conclusion worked outcome second) : first = second := by
  cases one with
  | workFailed error returned | workPanicked cause returned =>
      cases returned <;> cases other <;> rfl
  | decoded | endFailed | endPanicked =>
      cases other
      rfl
  | endPanickedLater error cause =>
      cases other with
      | workFailed _ returned => cases returned
      | endPanickedLater => rfl

/-- The dialogue of a submission settles its result. -/
theorem SubmissionDialogue.unique {policy : RetryPolicy} {frame : Frame S ν}
    {dialogue : Dialogue S} {first second : Except Interruption Unit}
    (one : SubmissionDialogue policy frame dialogue first)
    (other : SubmissionDialogue policy frame dialogue second) : first = second := by
  generalize same : dialogue = again at other
  rw [← List.append_nil dialogue, ← List.append_nil again] at same
  cases one with
  | notBegun opening =>
      cases other with
      | notBegun reopening =>
          cases (BeginDialogue.settles opening reopening same).2
          rfl
      | ended reopening inOrder conclusion =>
          simp only [List.append_assoc] at same
          cases (BeginDialogue.settles opening reopening same).2
  | ended opening inOrder conclusion =>
      simp only [List.append_assoc] at same
      cases other with
      | notBegun reopening =>
          cases (BeginDialogue.settles opening reopening same).2
      | ended reopening again concludes =>
          simp only [List.append_assoc] at same
          obtain ⟨rfl, _⟩ := BeginDialogue.settles opening reopening same
          have rest := List.append_cancel_left same
          obtain ⟨rfl, rfl⟩ :=
            StageDialogue.InOrder.settles Frame.stages_settle inOrder again rest
          have ends := List.append_cancel_left rest
          simp only [List.cons_append, List.cons.injEq, Answered.mk.injEq, heq_eq_eq,
            true_and, and_true] at ends
          subst ends
          exact conclusion.unique concludes

end HardwareDecode
