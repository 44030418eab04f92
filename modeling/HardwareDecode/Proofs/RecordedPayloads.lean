/-
Module: HardwareDecode.Proofs.RecordedPayloads
Purpose: What a recording driver shows of the batches it executes, under assemblers of every kind.
  However often an assembler tries a kind, the driver holds the payloads of just those commits that
  succeeded since the frame began, and the entries it adds show these and nothing else.
Main exports: Assembler.Leaves, Frame.Assembled, Workbench, benching, execute_benched,
  performAll_benched, Recording.ShowsFrame, executed_entries_show_successful_commits
-/
import HardwareDecode.Proofs.Keeping
import HardwareDecode.Proofs.RecordingBackend

namespace HardwareDecode

variable {S ν ο : Type}

/-! ### The commits of a frame that succeed -/

/-- All that is said is what makes the commit succeed. -/
def Commit.Succeeds (made : Commit) (said : Dialogue S) : Prop :=
  CommitDialogue made.kind made.payload made.macroblocks said (.ok made.descriptor)

/-- Commits that succeed one after the other. -/
inductive Commit.AllSucceed : List Commit → Dialogue S → Prop where
  | nil : AllSucceed [] []
  | cons {made : Commit} {commits : List Commit} {front back : Dialogue S}
      (first : made.Succeeds front) (later : AllSucceed commits back) :
      AllSucceed (made :: commits) (front ++ back)

theorem Commit.AllSucceed.single {made : Commit} {said : Dialogue S}
    (succeeds : made.Succeeds said) : AllSucceed [made] said := by
  rw [← List.append_nil said]
  exact .cons succeeds .nil

/-- Behind a list of descriptors the strategy finishes after a dialogue, in which just the given
commits succeeded. -/
inductive Assembler.Leaves : Assembler ν → List Descriptor → Dialogue S → List Commit → Prop where
  | finish (before : List Descriptor) : Leaves .finish before [] []
  | succeeds {made : Commit} {next : Except FrameError Descriptor → Assembler ν}
      {before : List Descriptor} {front back : Dialogue S} {commits : List Commit}
      (committed : made.Succeeds front)
      (later : Leaves (next (.ok made.descriptor)) (before ++ [made.descriptor]) back commits) :
      Leaves (.commit made.kind made.payload made.macroblocks next) before (front ++ back)
        (made :: commits)
  | fails {kind : BufferKind} {payload : Bytes} {macroblocks : UInt32}
      {next : Except FrameError Descriptor → Assembler ν} {before : List Descriptor}
      {error : FrameError} {front back : Dialogue S} {commits : List Commit}
      (failed : CommitDialogue kind payload macroblocks front (.error (.failure error)))
      (later : Leaves (next (.error error)) before back commits) :
      Leaves (.commit kind payload macroblocks next) before (front ++ back) commits
  | inspect {next : List Descriptor → Assembler ν} {before : List Descriptor}
      {said : Dialogue S} {commits : List Commit}
      (later : Leaves (next before) before said commits) :
      Leaves (.inspect next) before said commits
  | note {mark : ν} {next : Assembler ν} {before : List Descriptor} {said : Dialogue S}
      {commits : List Commit} (later : Leaves next before said commits) :
      Leaves (.note mark next) before said commits

/-- After a dialogue the frame is put together, and just the given commits succeeded in it. -/
def Frame.Assembled (frame : Frame S ν) (said : Dialogue S) (commits : List Commit) : Prop :=
  ∃ own codec more, said = own ++ codec ∧ commits = frame.ownCommits ++ more ∧
    Commit.AllSucceed frame.ownCommits own ∧
      frame.assembler.Leaves (frame.ownCommits.map Commit.descriptor) codec more

/-! ### A workbench -/

/-- What was said up to the begin of a frame and since then, and the buffers of that frame. -/
structure Workbench (S : Type) where
  earlier : Dialogue S
  said : Dialogue S := []
  shelf : Shelf := { stored := fun _ => none }

/-- The shelf after a buffer was lent.  A buffer that is kept is lent as it is. -/
def Shelf.lend (shelf : Shelf) (kind : BufferKind) (lent : Bytes) : Shelf :=
  if (shelf.stored kind).isSome then shelf else shelf.put kind lent

namespace Workbench

/-- Something is said. -/
def say (bench : Workbench S) (answered : Answered S) : Workbench S :=
  { bench with said := bench.said ++ [answered] }

/-- A frame begins on an empty workbench. -/
def clear (bench : Workbench S) (surface : S) : Workbench S :=
  { earlier := bench.earlier ++ bench.said ++ [⟨.beginFrame surface, .ok ()⟩] }

/-- The workbench after an answered request. -/
def next (bench : Workbench S) : (request : Request S ν) → request.Answer → Workbench S
  | .call (.beginFrame surface), .ok _ => bench.clear surface
  | .call (.getBuffer kind), .ok lent =>
      { bench.say ⟨.getBuffer kind, .ok lent⟩ with shelf := bench.shelf.lend kind lent }
  | .call call, outcome => bench.say ⟨call, outcome⟩
  | .store kind contents, _ => { bench with shelf := bench.shelf.put kind contents }
  | _, _ => bench

/-- `bench.Keeps releases opened said commits`: since the dialogue `opened` began the frame, `said`
was said, and of these commits the last one of every kind is stored.  Their buffers could all be
given back. -/
structure Keeps (releases : BufferKind → Outcome Unit) (opened said : Dialogue S)
    (commits : List Commit) (bench : Workbench S) : Prop where
  opened : bench.earlier = opened
  said : bench.said = said
  holds : bench.shelf.Holds commits
  released : ∀ commit ∈ commits, releases commit.kind = .ok ()

end Workbench

/-- Everything is allowed, and batches are submitted only as `judge` permits.  The driver is relied
on to answer every release of a kind alike. -/
def benching (releases : BufferKind → Outcome Unit)
    (judge : Workbench S → List Descriptor → Prop) : Protocol S ν (Workbench S) where
  expects
    | .call (.releaseBuffer kind), outcome => outcome = releases kind
    | _, _ => True
  allows
    | bench, .call (.submitBuffers batch) => judge bench batch
    | _, _ => True
  next := Workbench.next

/-- What is kept for commits depends on the buffers of their kinds alone. -/
theorem Shelf.Holds.congr {shelf other : Shelf} {commits : List Commit}
    (holds : shelf.Holds commits)
    (same : ∀ commit ∈ commits, other.stored commit.kind = shelf.stored commit.kind) :
    other.Holds commits := by
  rintro front commit back rfl last
  obtain ⟨size, bytes, found, starts⟩ := holds rfl last
  exact ⟨size, bytes, (same commit (by simp)).trans found, starts⟩

/-- A kind that was committed was committed a last time. -/
theorem Commit.exists_last {commits : List Commit} {commit : Commit} (member : commit ∈ commits) :
    ∃ front last back, commits = front ++ last :: back ∧ last.kind = commit.kind ∧
      ∀ later ∈ back, later.kind ≠ last.kind := by
  induction commits generalizing commit with
  | nil => cases member
  | cons first commits inductionHypothesis =>
      by_cases again : ∃ later ∈ commits, later.kind = commit.kind
      · obtain ⟨later, found, same⟩ := again
        obtain ⟨front, last, back, rfl, kind, others⟩ := inductionHypothesis found
        exact ⟨first :: front, last, back, rfl, kind.trans same, others⟩
      · rcases List.mem_cons.mp member with rfl | found
        · exact ⟨[], commit, commits, rfl, rfl, fun later found same => again ⟨later, found, same⟩⟩
        · exact absurd ⟨commit, found, rfl⟩ again

/-- Every kind that was committed is stored. -/
theorem Shelf.Holds.isSome {shelf : Shelf} {commits : List Commit} (holds : shelf.Holds commits)
    {commit : Commit} (member : commit ∈ commits) :
    (shelf.stored commit.kind).isSome = true := by
  obtain ⟨front, last, back, same, kind, others⟩ := Commit.exists_last member
  obtain ⟨_, bytes, found, _⟩ := holds same others
  rw [← kind, found]
  rfl

namespace Workbench.Keeps

variable {releases : BufferKind → Outcome Unit} {opened said : Dialogue S}
  {commits : List Commit} {bench : Workbench S}

theorem say (keeps : bench.Keeps releases opened said commits) (answered : Answered S) :
    (bench.say answered).Keeps releases opened (said ++ [answered]) commits :=
  { keeps with said := congrArg (· ++ [answered]) keeps.said }

/-- Lending a buffer changes none that is kept. -/
theorem lend (keeps : bench.Keeps releases opened said commits) (kind : BufferKind)
    (lent : Bytes) :
    Keeps releases opened said commits { bench with shelf := bench.shelf.lend kind lent } := by
  refine { keeps with holds := keeps.holds.congr fun commit member => ?_ }
  have kept := keeps.holds.isSome member
  simp only [Shelf.lend]
  split
  · rfl
  · next missing =>
      apply Shelf.stored_put_of_ne
      rintro rfl
      exact missing kept

/-- A kind that cannot be given back was never committed, so writing its buffer spoils nothing. -/
theorem put_of_stuck (keeps : bench.Keeps releases opened said commits) {kind : BufferKind}
    (stuck : releases kind ≠ .ok ()) (contents : Bytes) :
    Keeps releases opened said commits { bench with shelf := bench.shelf.put kind contents } := by
  refine { keeps with holds := keeps.holds.congr fun commit member => ?_ }
  apply Shelf.stored_put_of_ne
  rintro rfl
  exact stuck (keeps.released commit member)

/-- A payload that was written and whose buffer was given back is kept. -/
theorem push (keeps : bench.Keeps releases opened said commits) {made : Commit}
    (size : made.payload.length < UInt32.size) (free : releases made.kind = .ok ())
    (lent : Bytes) :
    Keeps releases opened said (commits ++ [made])
      { bench with shelf := bench.shelf.put made.kind (lent.overlay made.payload) } where
  opened := keeps.opened
  said := keeps.said
  holds := keeps.holds.push size List.take_left
  released := by
    intro commit member
    rcases List.mem_append.mp member with earlier | last
    · exact keeps.released commit earlier
    · rw [List.mem_singleton.mp last]
      exact free

end Workbench.Keeps

open HardwareDecode.Action

section

variable {releases : BufferKind → Outcome Unit} {judge : Workbench S → List Descriptor → Prop}
  {opened said : Dialogue S} {commits : List Commit} {bench : Workbench S}

theorem benching_ignoresPauses : (benching releases judge : Protocol S ν _).IgnoresPauses where
  allowed _ request pause := by
    cases request with
    | call _ => exact False.elim pause
    | _ => trivial
  kept _ request answer pause := by
    cases request with
    | call _ | store _ _ => exact False.elim pause
    | _ => rfl

theorem benching_ignoresLogs : (benching releases judge : Protocol S ν _).IgnoresLogs :=
  benching_ignoresPauses.ignoresLogs

theorem fill_benched {kind : BufferKind} {payload lent : Bytes} {macroblocks : UInt32} :
    (fill kind payload lent macroblocks : Action S ν Descriptor).run.Obeys
      (benching releases judge)
      (fun after result =>
        payload.Fits lent ∧ result = .ok (payload.describe kind macroblocks) ∧
            after = { bench with shelf := bench.shelf.put kind (lent.overlay payload) } ∨
          ¬payload.Fits lent ∧ after = bench ∧
            result = .error (.failure (.bufferTooSmall kind payload.length lent.length)))
      bench := by
  unfold fill
  split
  next fits =>
    refine obeys_bind.mpr (obeys_store.mpr ⟨trivial, fun _ _ => ?_⟩)
    refine obeys_bind.mpr (benching_ignoresLogs.obeys_log (obeys_pure.mpr ?_))
    exact .inl ⟨fits, rfl, rfl⟩
  next large =>
    refine obeys_bind.mpr (benching_ignoresLogs.obeys_log (obeys_fail.mpr ?_))
    exact .inr ⟨large, rfl, rfl⟩

/-- Just a commit that succeeds leaves its payload. -/
theorem commit_benched {made : Commit} (keeps : bench.Keeps releases opened said commits) :
    (commit made.kind made.payload made.macroblocks : Action S ν Descriptor).run.Obeys
      (benching releases judge)
      (fun after result => ∃ dialogue,
        CommitDialogue made.kind made.payload made.macroblocks dialogue result ∧
          (result = .ok made.descriptor ∧
              after.Keeps releases opened (said ++ dialogue) (commits ++ [made]) ∨
            ∃ interruption, result = .error interruption ∧
              after.Keeps releases opened (said ++ dialogue) commits))
      bench := by
  rw [commit, obeys_bind, obeys_call]
  refine ⟨trivial, fun got _ => ?_⟩
  cases got with
  | failed status =>
      refine obeys_bind.mpr (benching_ignoresLogs.obeys_log (obeys_fail.mpr ?_))
      exact ⟨_, .getFailed status, .inr ⟨_, rfl, keeps.say _⟩⟩
  | panicked cause => exact ⟨_, .getPanicked cause, .inr ⟨_, rfl, keeps.say _⟩⟩
  | ok lent =>
      have lends := (keeps.say ⟨.getBuffer made.kind, .ok lent⟩).lend made.kind lent
      apply obeys_bind.mpr
      apply obeys_attempt.mpr
      apply fill_benched.weaken
      rintro _ filled (⟨fits, rfl, rfl⟩ | ⟨large, rfl, rfl⟩)
      · refine obeys_bind.mpr (obeys_call.mpr ⟨trivial, fun released expected => ?_⟩)
        obtain rfl : released = releases made.kind := expected
        cases answered : releases made.kind with
        | ok _ =>
            have pushed := (lends.push fits.1 answered lent).say ⟨.releaseBuffer made.kind, .ok ()⟩
            rw [List.append_assoc] at pushed
            exact obeys_pure.mpr ⟨_, .committed fits, .inl ⟨rfl, pushed⟩⟩
        | failed status =>
            -- The payload was written all the same, but over nothing that is kept: no commit of a
            -- kind succeeds whose buffers are never taken back.
            have stuck : releases made.kind ≠ .ok () := by simp [answered]
            have still := (lends.put_of_stuck stuck (lent.overlay made.payload)).say
              ⟨.releaseBuffer made.kind, .failed status⟩
            rw [List.append_assoc] at still
            refine obeys_bind.mpr (benching_ignoresLogs.obeys_log (obeys_fail.mpr ?_))
            exact ⟨_, .releaseFailed lent status, .inr ⟨_, rfl, still⟩⟩
        | panicked cause =>
            have stuck : releases made.kind ≠ .ok () := by simp [answered]
            have still := (lends.put_of_stuck stuck (lent.overlay made.payload)).say
              ⟨.releaseBuffer made.kind, .panicked cause⟩
            rw [List.append_assoc] at still
            exact ⟨_, .releasePanicked lent cause, .inr ⟨_, rfl, still⟩⟩
      · refine obeys_bind.mpr (obeys_call.mpr ⟨trivial, fun released expected => ?_⟩)
        have still := lends.say ⟨.releaseBuffer made.kind, released⟩
        rw [List.append_assoc] at still
        cases released with
        | ok _ => exact obeys_fail.mpr ⟨_, .tooSmall large, .inr ⟨_, rfl, still⟩⟩
        | failed status =>
            refine obeys_bind.mpr (benching_ignoresLogs.obeys_log (obeys_fail.mpr ?_))
            exact ⟨_, .releaseFailed lent status, .inr ⟨_, rfl, still⟩⟩
        | panicked cause => exact ⟨_, .releasePanicked lent cause, .inr ⟨_, rfl, still⟩⟩

/-- A batch of just these commits lies on the workbench. -/
structure Batch.LiesOn (releases : BufferKind → Outcome Unit) (opened said : Dialogue S)
    (commits : List Commit) (bench : Workbench S) (batch : Batch) : Prop where
  descriptors : batch.descriptors = commits.map Commit.descriptor
  keeps : bench.Keeps releases opened said commits

theorem Batch.LiesOn.push {batch : Batch} {made : Commit} {after : Workbench S}
    {dialogue : Dialogue S} (lies : batch.LiesOn releases opened said commits bench)
    (keeps : after.Keeps releases opened (said ++ dialogue) (commits ++ [made])) :
    (batch.push made.descriptor).LiesOn releases opened (said ++ dialogue) (commits ++ [made])
      after where
  descriptors := by
    rw [Batch.push, lies.descriptors, List.map_append]
    rfl
  keeps := keeps

theorem add_benched {batch : Batch} (made : Commit)
    (lies : batch.LiesOn releases opened said commits bench) :
    (batch.add made.kind made.payload made.macroblocks : Action S ν _).run.Obeys
      (benching releases judge)
      (fun after result => ∀ answer later, result = .ok (answer, later) →
        ∃ dialogue,
          answer = .ok made.descriptor ∧ made.Succeeds dialogue ∧
              later.LiesOn releases opened (said ++ dialogue) (commits ++ [made]) after ∨
            ∃ error, answer = .error error ∧
              CommitDialogue made.kind made.payload made.macroblocks dialogue
                (.error (.failure error)) ∧
              later = batch ∧ later.LiesOn releases opened (said ++ dialogue) commits after)
      bench := by
  rw [Batch.add, obeys_bind, obeys_attempt]
  apply (commit_benched lies.keeps).weaken
  rintro after _ ⟨dialogue, spoken, ⟨rfl, keeps⟩ | ⟨error | cause, rfl, keeps⟩⟩
  · apply obeys_pure.mpr
    intro answer later same
    cases same
    exact ⟨dialogue, .inl ⟨rfl, spoken, lies.push keeps⟩⟩
  · apply obeys_pure.mpr
    intro answer later same
    cases same
    exact ⟨dialogue, .inr ⟨error, rfl, spoken, rfl, lies.descriptors, keeps⟩⟩
  · intro answer later same
    cases same

theorem require_benched {batch : Batch} (made : Commit)
    (lies : batch.LiesOn releases opened said commits bench) :
    (batch.require made.kind made.payload made.macroblocks : Action S ν Batch).run.Obeys
      (benching releases judge)
      (fun after result => ∀ later, result = .ok later → ∃ dialogue, made.Succeeds dialogue ∧
        later.LiesOn releases opened (said ++ dialogue) (commits ++ [made]) after)
      bench := by
  rw [Batch.require, obeys_bind]
  apply (add_benched made lies).weaken
  intro after result added
  rcases result with interruption | ⟨answer, later⟩
  · intro later same
    cases same
  · obtain ⟨dialogue, ⟨rfl, succeeds, lies⟩ | ⟨error, rfl, _⟩⟩ := added answer later rfl
    · apply obeys_pure.mpr
      intro last same
      cases same
      exact ⟨dialogue, succeeds, lies⟩
    · apply obeys_fail.mpr
      intro later same
      cases same

/-- Whatever the assembler makes of its failures, its successes are what it leaves. -/
theorem assemble_benched {assembler : Assembler ν} {batch : Batch}
    (lies : batch.LiesOn releases opened said commits bench) :
    (assembler.assemble batch : Action S ν Batch).run.Obeys (benching releases judge)
      (fun after result => ∀ finished, result = .ok finished →
        ∃ dialogue more, assembler.Leaves batch.descriptors dialogue more ∧
          finished.LiesOn releases opened (said ++ dialogue) (commits ++ more) after)
      bench := by
  induction assembler generalizing batch bench said commits with
  | finish =>
      apply obeys_pure.mpr
      intro finished same
      cases same
      exact ⟨[], [], .finish _, by simpa using lies⟩
  | fail error =>
      apply obeys_fail.mpr
      intro finished same
      cases same
  | panic cause =>
      apply obeys_panic.mpr
      intro finished same
      cases same
  | commit kind payload macroblocks next inductionHypothesis =>
      rw [Assembler.assemble, obeys_bind]
      apply (add_benched ⟨kind, payload, macroblocks⟩ lies).weaken
      intro after result added
      rcases result with interruption | ⟨answer, later⟩
      · intro finished same
        cases same
      · obtain ⟨front, ⟨rfl, succeeds, lies'⟩ | ⟨error, rfl, failed, rfl, lies'⟩⟩ :=
          added answer later rfl
        · apply (inductionHypothesis _ lies').weaken
          intro last outcome finishes finished same
          obtain ⟨back, more, leaves, ends⟩ := finishes finished same
          rw [lies'.descriptors, List.map_append, ← lies.descriptors] at leaves
          rw [List.append_assoc, List.append_assoc] at ends
          exact ⟨front ++ back, ⟨kind, payload, macroblocks⟩ :: more, .succeeds succeeds leaves,
            ends⟩
        · apply (inductionHypothesis _ lies').weaken
          intro last outcome finishes finished same
          obtain ⟨back, more, leaves, ends⟩ := finishes finished same
          rw [List.append_assoc] at ends
          exact ⟨front ++ back, more, .fails failed leaves, ends⟩
  | inspect next inductionHypothesis =>
      apply (inductionHypothesis batch.descriptors lies).weaken
      intro last outcome finishes finished same
      obtain ⟨dialogue, more, leaves, ends⟩ := finishes finished same
      exact ⟨dialogue, more, .inspect leaves, ends⟩
  | note mark next inductionHypothesis =>
      refine obeys_bind.mpr (obeys_note.mpr ⟨trivial, fun _ _ => ?_⟩)
      apply (inductionHypothesis lies).weaken
      intro last outcome finishes finished same
      obtain ⟨dialogue, more, leaves, ends⟩ := finishes finished same
      exact ⟨dialogue, more, .note leaves, ends⟩

theorem requireMatrix_benched {frame : Frame S ν} {batch : Batch}
    (lies : batch.LiesOn releases opened said [⟨.pictureParameters, frame.pictureParameters, 0⟩]
      bench) :
    (frame.requireMatrix batch).run.Obeys (benching releases judge)
      (fun after result => ∀ later, result = .ok later → ∃ dialogue,
        Commit.AllSucceed frame.ownCommits.tail dialogue ∧
          later.LiesOn releases opened (said ++ dialogue) frame.ownCommits after)
      bench := by
  simp only [Frame.requireMatrix, Frame.ownCommits]
  split
  · apply obeys_pure.mpr
    intro later same
    cases same
    exact ⟨[], .nil, by simpa using lies⟩
  · apply benching_ignoresLogs.obeys_onFailure
    apply (require_benched ⟨_, _, 0⟩ lies).weaken
    intro after result required later same
    obtain ⟨dialogue, succeeds, lies⟩ := required later same
    exact ⟨dialogue, .single succeeds, lies⟩

/-- A frame that is put together left just the commits that succeeded. -/
theorem frame_assemble_benched {frame : Frame S ν} (keeps : bench.Keeps releases opened [] []) :
    frame.assemble.run.Obeys (benching releases judge)
      (fun after result => ∀ finished, result = .ok finished →
        ∃ dialogue commits, frame.Assembled dialogue commits ∧
          finished.LiesOn releases opened dialogue commits after)
      bench := by
  have empty : ({} : Batch).LiesOn releases opened [] [] bench := ⟨rfl, keeps⟩
  rw [Frame.assemble, obeys_bind]
  apply benching_ignoresLogs.obeys_onFailure
  apply (require_benched ⟨_, _, 0⟩ empty).weaken
  intro between result required
  cases result with
  | error interruption =>
      intro finished same
      cases same
  | ok batch =>
      obtain ⟨front, first, lies⟩ := required batch rfl
      apply obeys_bind.mpr
      apply (requireMatrix_benched lies).weaken
      intro between result required
      cases result with
      | error interruption =>
          intro finished same
          cases same
      | ok batch =>
          obtain ⟨back, rest, lies⟩ := required batch rfl
          apply benching_ignoresLogs.obeys_onFailure
          apply (assemble_benched lies).weaken
          intro after result assembled finished same
          obtain ⟨codec, more, leaves, lies'⟩ := assembled finished same
          rw [lies.descriptors] at leaves
          exact ⟨_, _, ⟨front ++ back, codec, more, rfl, rfl, .cons first rest, leaves⟩, lies'⟩

/-- A batch may be executed if it is what the commits of a frame left since that frame began, each
of another kind and each still stored. -/
def Workbench.mayExecute (steps : List (Session.Step S ν)) (bench : Workbench S)
    (batch : List Descriptor) : Prop :=
  ∃ frame earlier commits, .submit frame ∈ steps ∧
    bench.earlier = earlier ++ [⟨.beginFrame frame.surface, .ok ()⟩] ∧
      frame.Assembled bench.said commits ∧ (commits.map Commit.kind).Nodup ∧
        batch = commits.map Commit.descriptor ∧
          ∀ commit ∈ commits, commit.StoredIn bench.shelf.stored

theorem execute_benched {frame : Frame S ν} {steps : List (Session.Step S ν)}
    (member : .submit frame ∈ steps) {earlier : Dialogue S}
    (keeps : bench.Keeps releases (earlier ++ [⟨.beginFrame frame.surface, .ok ()⟩]) [] []) :
    frame.execute.run.Obeys (benching releases (Workbench.mayExecute steps)) (fun _ _ => True)
      bench := by
  rw [Frame.execute, obeys_bind]
  apply (frame_assemble_benched keeps).weaken
  intro after result assembled
  cases result with
  | error interruption => trivial
  | ok batch =>
      obtain ⟨dialogue, commits, made, lies⟩ := assembled batch rfl
      simp only
      cases checked : batch.check frame.batchSize with
      | error cause => exact obeys_panic.mpr trivial
      | ok _ =>
          have once : (commits.map Commit.kind).Nodup := by
            obtain ⟨_, _, more, _, rfl, _⟩ := made
            obtain ⟨bitstream, slices, rfl, first, second⟩ :=
              Frame.exists_of_check lies.descriptors checked
            exact Frame.kinds_nodup first second
          have may : Workbench.mayExecute steps after batch.descriptors :=
            ⟨frame, earlier, commits, member, lies.keeps.opened, lies.keeps.said ▸ made, once,
              lies.descriptors, lies.keeps.holds.storedIn once⟩
          apply obeys_bind.mpr
          refine obeys_call.mpr ⟨may, fun outcome _ => ?_⟩
          cases outcome with
          | ok _ => exact obeys_pure.mpr trivial
          | failed status =>
              exact obeys_bind.mpr (benching_ignoresLogs.obeys_log (obeys_fail.mpr trivial))
          | panicked cause => trivial

theorem submit_benched {session : Session} {frame : Frame S ν} {steps : List (Session.Step S ν)}
    (member : .submit frame ∈ steps) :
    (session.submit frame).run.Obeys (benching releases (Workbench.mayExecute steps))
      (fun _ _ => True) bench := by
  have may : (benching releases (Workbench.mayExecute steps) : Protocol S ν _).MayBegin
      (fun _ => True)
      (fun opened => ∃ earlier, opened.Keeps releases
        (earlier ++ [⟨.beginFrame frame.surface, .ok ()⟩]) [] []) frame.surface :=
    { allowed := fun _ => trivial
      fails := fun _ _ => trivial
      begins := fun _ => ⟨_, rfl, rfl, Shelf.Holds.nil _, nofun⟩ }
  apply submit_obeys benching_ignoresLogs (begin_obeys benching_ignoresPauses may trivial)
  · intro _ _ _
    trivial
  · rintro opened ⟨earlier, keeps⟩
    apply (execute_benched member keeps).weaken
    intro worked executed _
    exact {
      ended := trivial
      freed := fun _ _ => ⟨trivial, trivial⟩
      aborted := fun _ _ => trivial }

/-- A session executes nothing but what the commits of its frames left. -/
theorem performAll_benched {session : Session} {steps : List (Session.Step S ν)} :
    (session.performAll steps).Obeys (benching releases (Workbench.mayExecute steps))
      (fun _ _ => True) bench := by
  apply performAll_keeps
  · intro frame member session _ _
    exact submit_benched member
  · intro query _ _
    exact ⟨trivial, fun _ => trivial⟩
  · trivial

end

/-! ### The workbench of a recording driver -/

/-- What is lent again is on the shelf already. -/
theorem Shelf.stored_lend {shelf : Shelf} {kind : BufferKind} {lent : Bytes}
    (again : ∀ kept, shelf.stored kind = some kept → lent = kept) :
    (shelf.lend kind lent).stored = (shelf.put kind lent).stored := by
  unfold lend
  split
  next found =>
    obtain ⟨kept, known⟩ := Option.isSome_iff_exists.mp found
    obtain rfl := again kept known
    funext other
    simp only [put]
    split
    next same => rw [same, known]
    next => rfl
  next => rfl

theorem Workbench.said_next_call (bench : Workbench S) (call : Call S)
    (outcome : Outcome call.Answer) :
    let after := bench.next (.call call : Request S ν) outcome
    after.earlier ++ after.said = bench.earlier ++ bench.said ++ [⟨call, outcome⟩] := by
  have spoken : (bench.say ⟨call, outcome⟩).earlier ++ (bench.say ⟨call, outcome⟩).said =
      bench.earlier ++ bench.said ++ [⟨call, outcome⟩] :=
    (List.append_assoc ..).symm
  cases call with
  | beginFrame surface =>
      cases outcome with
      | ok _ => exact List.append_nil _
      | failed _ | panicked _ => exact spoken
  | getBuffer kind => cases outcome <;> exact spoken
  | _ => exact spoken

/-- All that was said is on one of the two parts of the workbench. -/
theorem benching_after (releases : BufferKind → Outcome Unit)
    (judge : Workbench S → List Descriptor → Prop) (bench : Workbench S)
    (trace : List (Exchange S ν)) :
    let after := (benching releases judge).after bench trace
    after.earlier ++ after.said = bench.earlier ++ bench.said ++ driverCalls trace := by
  induction trace generalizing bench with
  | nil => simp [Protocol.after, driverCalls]
  | cons exchange trace inductionHypothesis =>
      rcases exchange with ⟨request, answer⟩
      refine (inductionHypothesis (bench.next request answer)).trans ?_
      cases request with
      | call call =>
          rw [Workbench.said_next_call, List.append_assoc]
          rfl
      | _ => rfl

namespace Recording

variable {observed : DeviceLock} {backend : Backend UInt32 (InFlight × State) ο}

/-- What a script answers to the releases of a kind. -/
def Script.released (script : Script) (kind : BufferKind) : Outcome Unit :=
  answer (failing script.releaseStatus kind)

theorem Backs.keepsStep_benching (backs : Backs observed backend) {script : Script}
    {judge : Workbench UInt32 → List Descriptor → Prop} :
    (backend.environment : Environment UInt32 ν _ _).KeepsStep (benching script.released judge)
      fun bench world =>
        stored world.driver = bench.shelf.stored ∧ world.driver.2.script = script := by
  rintro bench world request served ⟨same, rfl⟩ _ answered
  have keeps : backend.driver.Keeps stored := backs.driver_eq ▸ plain_keeps
  have free : (shelving fun _ _ => True : Protocol UInt32 ν Shelf).allows bench.shelf request := by
    rcases request with (_ | _ | _ | _ | _) | _ | _ | _ | _ | _ | _ | _ | _ <;> trivial
  have shelved := (Backend.keepsStep_shelving keeps same free answered).2
  have scripted := backs.script_serve answered
  refine ⟨?_, ?_, scripted⟩
  · cases request with
    | call call =>
        cases call with
        | releaseBuffer kind =>
            cases answered
            simp only [benching, Backend.reply, backs.driver_eq, plain_releaseBuffer]
            rfl
        | _ => trivial
    | _ => trivial
  · refine shelved.trans ?_
    cases request with
    | call call =>
        cases call with
        | getBuffer kind =>
            cases answered
            simp only [benching, shelving]
            generalize granted : (backend.reply (.getBuffer kind) world.locks
              world.driver).outcome = outcome
            cases outcome with
            | ok lent =>
                simp only [Backend.reply, backs.driver_eq] at granted
                refine (Shelf.stored_lend fun kept known => ?_).symm
                exact plain_lends_again ((congrFun same kind).trans known) granted
            | failed _ | panicked _ => rfl
        | beginFrame surface =>
            cases answered
            simp only [benching, shelving]
            generalize (backend.reply (.beginFrame surface) world.locks
              world.driver).outcome = outcome
            cases outcome <;> rfl
        | _ => rfl
    | _ => rfl

/-- A batch of commits that are all stored is executed, unless the script has it fail. -/
theorem submitBuffers_eq {commits : List Commit} {locks : Locks} {state : InFlight × State}
    (kept : ∀ commit ∈ commits, commit.StoredIn (stored state)) :
    ∃ entries, List.Forall₂ Submitted.Shows entries commits ∧
      ((plain observed).submitBuffers (commits.map Commit.descriptor) locks state :
          Reply Unit _ ο) =
        { outcome := answer state.2.script.submitStatus
          state :=
            (state.1,
              { state.2.record observed locks (.submitBuffers (commits.map Commit.kind)) with
                submitted := state.2.submitted ++
                  if state.2.script.submitStatus.isNone then entries else [] }) } := by
  obtain ⟨entries, inspected, shown⟩ := inspectAll_eq_ok kept
  have kinds : entries.map Submitted.kind = commits.map Commit.kind := by
    clear inspected kept
    induction shown with
    | nil => rfl
    | cons first _ inductionHypothesis =>
        rw [List.map_cons, List.map_cons, first.kind, inductionHypothesis]
  refine ⟨entries, shown, ?_⟩
  simp only [plain, Driver.encoded, driver, submitBuffers, List.map_id, inspected, kinds,
    State.record]
  cases state.2.script.submitStatus with
  | none => rfl
  | some status => simp [answer]

/-- `ShowsFrame frame said before reply`: where the driver is `before`, its reply to a batch shows
the frame.  It fails only as the script has it, and it adds one entry for each commit that
succeeded in `said`, all of different kinds. -/
def ShowsFrame (frame : Frame UInt32 ν) (said : Dialogue UInt32) (before : State)
    (reply : Reply Unit (InFlight × State) ο) : Prop :=
  ∃ commits entries, frame.Assembled said commits ∧ (commits.map Commit.kind).Nodup ∧
    List.Forall₂ Submitted.Shows entries commits ∧
      reply.outcome = answer before.script.submitStatus ∧
        reply.state.2.calls = before.calls ++ [.submitBuffers (commits.map Commit.kind)] ∧
          reply.state.2.submitted =
            before.submitted ++ if before.script.submitStatus.isNone then entries else []

end Recording

/-- Whenever a session has a batch executed, and whatever its assemblers did with their failures,
the entries that a recording driver adds show the commits that succeeded since the frame began. -/
theorem executed_entries_show_successful_commits {observed : DeviceLock}
    {backend : Backend UInt32 (Recording.InFlight × Recording.State) ο}
    (backs : Recording.Backs observed backend) {session : Session}
    {steps : List (Session.Step UInt32 ν)}
    {world after : World (Recording.InFlight × Recording.State)}
    {trace : List (Exchange UInt32 ν)} {journal : List (Entry ο ν)} {batch : List Descriptor}
    {resume : Outcome Unit → Program UInt32 ν (List Session.Result × Session)}
    (reached : backend.environment.Reaches (session.performAll steps) world trace journal
      (.ask (.call (.submitBuffers batch)) resume) after) :
    ∃ frame earlier said, .submit frame ∈ steps ∧
      driverCalls trace = earlier ++ ⟨.beginFrame frame.surface, .ok ()⟩ :: said ∧
        Recording.ShowsFrame frame said after.driver.2
          (backend.reply (.submitBuffers batch) after.locks after.driver) := by
  let start : Workbench UInt32 :=
    { earlier := [], shelf := { stored := Recording.stored world.driver } }
  have obeys : (session.performAll steps).Obeys
      (benching world.driver.2.script.released (Workbench.mayExecute steps)) (fun _ _ => True)
      start := performAll_benched
  have said :=
    benching_after world.driver.2.script.released (Workbench.mayExecute steps) start trace
  obtain ⟨rest, same, _⟩ := obeys.of_reaches backs.keepsStep_benching ⟨rfl, rfl⟩ reached
  obtain ⟨frame, earlier, commits, member, opened, made, once, rfl, kept⟩ :=
    (Program.obeys_ask.mp rest).1
  rw [← same] at kept
  obtain ⟨entries, shown, reply⟩ : ∃ entries, _ ∧
      ((Recording.plain observed).submitBuffers _ after.locks after.driver : Reply Unit _ ο) = _ :=
    Recording.submitBuffers_eq kept
  refine ⟨frame, earlier, _, member, ?_, commits, entries, made, once, shown, ?_⟩
  · simp only [opened] at said
    simpa [start] using said.symm
  · simp only [Backend.reply, backs.driver_eq, reply]
    simp [Recording.State.calls, Recording.State.record]

/-- A frame whose assembler does not mind that its first bitstream is too large, after one whose
assembler panics. -/
def Session.Step.persistent : List (Session.Step UInt32 Empty) :=
  [.submit
      { surface := 4
        pictureParameters := [1, 2]
        assembler := .commit .bitstream [2, 2] 1 fun _ => .panic (.message "lost") },
    .submit
      { surface := 4
        pictureParameters := [1, 2]
        assembler :=
          .commit .bitstream [7, 8, 9] 1 fun _ =>
            .commit .bitstream [3] 2 fun _ => .commit .sliceControl [5, 6] 3 fun _ => .finish }]

/-- A bitstream that does not fit leaves nothing in the batch that is executed. -/
theorem second_attempt_is_shown :
    ∃ trace journal batch resume after,
      Recording.Backs (.mutex 0) Recording.observedContext ∧
        Recording.observedContext.environment.Reaches
            (Session.performAll { format := .textureArray, lock := .mutex 0 }
              Session.Step.persistent)
            { driver := (none, { script := { capacities := [(.bitstream, 2)] } }) } trace journal
            (.ask (.call (.submitBuffers batch)) resume) after ∧
          ∃ frame earlier said, .submit frame ∈ Session.Step.persistent ∧
            driverCalls trace = earlier ++ ⟨.beginFrame frame.surface, .ok ()⟩ :: said ∧
              Recording.ShowsFrame frame said after.driver.2
                (Recording.observedContext.reply (.submitBuffers batch) after.locks
                  after.driver) := by
  have comes : Recording.observedContext.environment.comesTo Request.executes
      (Session.performAll { format := .textureArray, lock := .mutex 0 } Session.Step.persistent)
      { driver := (none, { script := { capacities := [(.bitstream, 2)] } }) } = true := by
    decide +kernel
  obtain ⟨trace, journal, request, resume, after, executes, reached⟩ :=
    Environment.comesTo_iff.mp comes
  match request, executes, resume, reached with
  | .call (.submitBuffers batch), _, resume, reached =>
      have backs : Recording.Backs (.mutex 0) Recording.observedContext := .textureArray _ _
      exact ⟨trace, journal, batch, resume, after, backs, reached,
        executed_entries_show_successful_commits backs reached⟩

end HardwareDecode
