/-
Module: HardwareDecode.Proofs.FailedCommits
Purpose: What a commit that fails does to the frame it belongs to.  It adds no descriptor and
  touches no buffer but the one it was lent.  That one it spoils, since a driver lends its buffers
  afresh and nothing is put back: a payload stays until its buffer is lent again.
Main exports: Handled, handling, commit_handled, submit_handled, Backend.FailsAlone,
  Backend.SparesPayloads, failed_commits_spare_other_buffers, failed_commit_spoils_payload
-/
import HardwareDecode.Proofs.FrameTrials
import HardwareDecode.Proofs.Keeping

namespace HardwareDecode

variable {S ν σ ο α : Type}

/-- What was said about buffers so far, and what they hold by now. -/
structure Handled (S : Type) where
  said : Dialogue S := []
  shelf : Shelf

namespace Handled

/-- A request is noticed if it is about buffers. -/
def next (state : Handled S) (request : Request S ν) (answer : request.Answer) : Handled S where
  said := state.said ++ bufferCalls [⟨request, answer⟩]
  shelf := state.shelf.next request answer

theorem next_eq {state : Handled S} {request : Request S ν} {answer : request.Answer}
    (silent : bufferCalls [⟨request, answer⟩] = [])
    (kept : state.shelf.next request answer = state.shelf) : state.next request answer = state := by
  rw [next, silent, List.append_nil, kept]

/-- A commit was tried as well. -/
def push (state : Handled S) (trial : Trial S) : Handled S where
  said := state.said ++ trial.said
  shelf := trial.onto state.shelf

/-- These trials, and nothing else, have brought the buffers to where they are. -/
structure Shows (state : Handled S) (trials : List (Trial S)) : Prop where
  said : state.said = Trial.dialogue trials
  stored : state.shelf.stored = Trial.stored trials

theorem Shows.push {state : Handled S} {trials : List (Trial S)} (shows : state.Shows trials)
    (trial : Trial S) : (state.push trial).Shows (trials ++ [trial]) where
  said := by simp [Handled.push, shows.said]
  stored := Trial.stored_onto shows.stored trial

end Handled

/-- Requests made in a frame that has begun while none of its commits is under way. -/
def Request.isBetweenCommits : Request S ν → Prop
  | .call (.getBuffer _) | .call (.submitBuffers _) | .call .endFrame | .note _ => True
  | _ => False

/-- In a commit everything is allowed, and between commits what `judge` permits. -/
def handling (judge : Handled S → Request S ν → Prop) : Protocol S ν (Handled S) where
  allows state request := request.isBetweenCommits → judge state request
  next := Handled.next

variable {judge : Handled S → Request S ν → Prop}

theorem handling_after (state : Handled S) (trace : List (Exchange S ν)) :
    (handling judge).after state trace =
      ⟨state.said ++ bufferCalls trace, state.shelf.after trace⟩ := by
  induction trace generalizing state with
  | nil => simp [Protocol.after, Shelf.after, bufferCalls, driverCalls]
  | cons exchange trace inductionHypothesis =>
      have later := inductionHypothesis (state.next exchange.request exchange.answer)
      have calls : bufferCalls (exchange :: trace) = bufferCalls [exchange] ++ bufferCalls trace :=
        bufferCalls_append [exchange] trace
      rw [calls, ← List.append_assoc]
      exact later

theorem handling_ignoresPauses : (handling judge).IgnoresPauses where
  allowed _ request pauses := by
    intro between
    rcases request with (_ | _) | _ | _ | _ | _ | _ | _ | _ | _ <;>
      first | exact False.elim pauses | exact False.elim between
  kept state request answer pauses := by
    rcases request with _ | _ | _ | _ | _ | _ | _ | _ | _ <;>
      first | exact False.elim pauses | exact Handled.next_eq rfl rfl

open HardwareDecode.Action

namespace Commit.Goes

variable {made : Commit} {trace : List (Exchange S ν)} {result : Except Interruption Descriptor}

/-- What happened in a commit is a trial of it. -/
def trial (goes : made.Goes trace result) : Trial S :=
  ⟨made, driverCalls trace, result, goes.agrees⟩

/-- The driver is called about nothing but buffers in a commit. -/
theorem bufferCalls_eq (goes : made.Goes trace result) : bufferCalls trace = driverCalls trace := by
  have agrees := goes.agrees
  rw [bufferCalls]
  generalize driverCalls trace = said at agrees
  cases agrees <;> rfl

theorem onto_trial (goes : made.Goes trace result) (shelf : Shelf) :
    shelf.after trace = goes.trial.onto shelf := by
  have returned (lent : Bytes) (later : List (Exchange S ν)) :
      shelf.after (made.borrowing lent ++ later) =
        (shelf.put made.kind (made.written lent)).after later := by
    rw [Shelf.after_append, made.after_borrowing]
  cases goes with
  | getFailed | getPanicked => rfl
  | _ => exact returned _ _

end Commit.Goes

/-- A commit is one more trial, whatever comes of it. -/
theorem commit_handled (made : Commit) {state : Handled S}
    (gets : judge state (.call (.getBuffer made.kind))) :
    (commit made.kind made.payload made.macroblocks : Action S ν Descriptor).run.Obeys
      (handling judge)
      (fun after result => ∃ trial : Trial S, trial.made = made ∧ trial.result = result ∧
        after = state.push trial) state := by
  have ignores : (handling judge).IgnoresLogs := handling_ignoresPauses.ignoresLogs
  apply (commit_goes made (fun _ => gets) (fun _ _ => False.elim) ignores.allowed
    fun _ => False.elim).weaken
  intro after result gone
  obtain ⟨trace, goes, rfl⟩ := gone
  refine ⟨goes.trial, rfl, rfl, ?_⟩
  rw [handling_after, goes.bufferCalls_eq, goes.onto_trial]
  rfl

/-- A commit for a batch is tried like one on its own. -/
theorem add_handled (batch : Batch) (made : Commit) {state : Handled S}
    (gets : judge state (.call (.getBuffer made.kind))) :
    (batch.add made.kind made.payload made.macroblocks : Action S ν _).run.Obeys (handling judge)
      (fun after result => ∃ trial : Trial S, trial.made = made ∧
        result = batch.added trial.result ∧ after = state.push trial) state := by
  rw [batch.run_add, map_eq_pure_bind, Program.obeys_bind]
  apply (commit_handled made gets).weaken
  intro after result tried
  obtain ⟨trial, same, rfl, pushed⟩ := tried
  exact Program.obeys_done.mpr ⟨trial, same, rfl, pushed⟩

theorem Batch.descriptors_elim (batch : Batch) (answer : Except FrameError Descriptor) :
    (answer.toOption.elim batch batch.push).descriptors =
      batch.descriptors ++ answer.toOption.toList := by
  cases answer with
  | error error => exact (List.append_nil _).symm
  | ok descriptor => rfl

/-! ### Frames -/

/-- Between commits just some trials of the frame were made, and just their descriptors are
submitted. -/
def Frame.mayGoOn (frame : Frame S ν) (state : Handled S) (request : Request S ν) : Prop :=
  ∃ trials : List (Trial S), frame.strategy.StartsWith [] trials ∧ state.Shows trials ∧
    ∀ batch, request = .call (.submitBuffers batch) → batch = Trial.descriptors trials

theorem assemble_handled {frame : Frame S ν} {assembler : Assembler ν} {batch : Batch}
    {trials : List (Trial S)} {state : Handled S}
    (leads : frame.strategy.Leads trials assembler batch.descriptors) (shows : state.Shows trials) :
    (assembler.assemble batch : Action S ν Batch).run.Obeys (handling frame.mayGoOn)
      (fun after result => ∃ tried : List (Trial S), frame.strategy.StartsWith [] tried ∧
        after.Shows tried ∧
          ∀ batch, result = .ok batch → batch.descriptors = Trial.descriptors tried)
      state := by
  induction assembler generalizing batch trials state with
  | finish =>
      apply obeys_pure.mpr
      refine ⟨trials, leads.startsWith, shows, ?_⟩
      intro last same
      cases same
      exact leads.descriptors
  | fail error =>
      exact obeys_fail.mpr ⟨trials, leads.startsWith, shows, fun _ same => by cases same⟩
  | panic cause =>
      exact obeys_panic.mpr ⟨trials, leads.startsWith, shows, fun _ same => by cases same⟩
  | commit kind payload macroblocks next inductionHypothesis =>
      rw [Assembler.assemble, obeys_bind]
      have gets : frame.mayGoOn state (.call (.getBuffer kind)) :=
        ⟨trials, leads.startsWith, shows, fun _ same => by cases same⟩
      apply (add_handled batch ⟨kind, payload, macroblocks⟩ gets).weaken
      intro after result tried
      obtain ⟨trial, made, rfl, rfl⟩ := tried
      cases told : attempted trial.result with
      | error interruption =>
          simp only [Batch.added, told, Except.map]
          exact ⟨_, leads.unwinds made told, shows.push trial, fun _ same => by cases same⟩
      | ok answer =>
          have rest := leads.commit made told
          simp only [Batch.added, told, Except.map]
          rw [← batch.descriptors_elim] at rest
          exact inductionHypothesis answer rest (shows.push trial)
  | inspect next inductionHypothesis =>
      exact inductionHypothesis batch.descriptors leads.inspect shows
  | note mark next inductionHypothesis =>
      rw [Assembler.assemble, obeys_bind, obeys_note]
      have notes : frame.mayGoOn state (.note mark) :=
        ⟨trials, leads.startsWith, shows, fun _ same => by cases same⟩
      refine ⟨fun _ => notes, fun answer _ => ?_⟩
      have unheard : (handling frame.mayGoOn).next state (.note mark) answer = state :=
        Handled.next_eq rfl rfl
      rw [unheard]
      exact inductionHypothesis leads.note shows

theorem frame_submit_handled {frame : Frame S ν} {batch : Batch} {trials : List (Trial S)}
    {state : Handled S} (starts : frame.strategy.StartsWith [] trials) (shows : state.Shows trials)
    (same : batch.descriptors = Trial.descriptors trials) :
    (Frame.submit batch : Action S ν Unit).run.Obeys (handling frame.mayGoOn)
      (fun after _ => after.Shows trials) state := by
  have ignores : (handling frame.mayGoOn).IgnoresLogs := handling_ignoresPauses.ignoresLogs
  have submits : frame.mayGoOn state (.call (.submitBuffers batch.descriptors)) := by
    refine ⟨trials, starts, shows, ?_⟩
    intro submitted equal
    cases equal
    exact same
  rw [Frame.submit, obeys_bind, obeys_call]
  refine ⟨fun _ => submits, fun outcome _ => ?_⟩
  -- no buffer is touched by a submission
  have still : (state.next (.call (.submitBuffers batch.descriptors) : Request S ν) outcome).Shows
      trials :=
    { said := (List.append_nil _).trans shows.said, stored := shows.stored }
  cases outcome with
  | ok _ => exact obeys_pure.mpr still
  | failed status => exact obeys_bind.mpr (ignores.obeys_log (obeys_fail.mpr still))
  | panicked cause => exact still

theorem execute_handled {frame : Frame S ν} {state : Handled S} (shows : state.Shows []) :
    frame.execute.run.Obeys (handling frame.mayGoOn)
      (fun after _ => ∃ tried : List (Trial S), frame.strategy.StartsWith [] tried ∧
        after.Shows tried) state := by
  have ignores : (handling frame.mayGoOn).IgnoresLogs := handling_ignoresPauses.ignoresLogs
  rw [Frame.execute, obeys_bind]
  apply (ignores.obeys_frame_assemble (assemble_handled (.start frame.strategy) shows)).weaken
  intro after result assembled
  obtain ⟨tried, starts, shows, left⟩ := assembled
  cases result with
  | error interruption => exact ⟨tried, starts, shows⟩
  | ok batch =>
      simp only
      cases batch.check frame.batchSize with
      | error cause => exact obeys_panic.mpr ⟨tried, starts, shows⟩
      | ok _ =>
          apply (frame_submit_handled starts shows (left batch rfl)).weaken
          intro last _ shows
          exact ⟨tried, starts, shows⟩

/-- In a submission nothing is said about buffers before the frame begins, and then just what is
said in the commits of the frame. -/
theorem submit_handled {session : Session} {frame : Frame S ν} {state : Handled S}
    (unheard : state.said = []) :
    (session.submit frame).run.Obeys (handling frame.mayGoOn) (fun _ _ => True) state := by
  have may : (handling frame.mayGoOn).MayBegin (fun state : Handled S => state.said = [])
      (fun state => state.Shows []) frame.surface := by
    constructor
    case allowed => exact fun _ => False.elim
    case fails =>
      intro state outcome unheard _
      exact (List.append_nil _).trans unheard
    case begins =>
      intro state unheard
      exact { said := (List.append_nil _).trans unheard, stored := rfl }
  apply submit_obeys handling_ignoresPauses.ignoresLogs
    (begin_obeys handling_ignoresPauses may unheard)
  · intro _ _ _
    trivial
  · intro opened shows
    apply (execute_handled shows).weaken
    intro worked executed tried
    obtain ⟨trials, starts, shows⟩ := tried
    exact {
      ended := fun _ => ⟨trials, starts, shows, fun _ same => by cases same⟩
      freed := fun _ _ => ⟨False.elim, trivial⟩
      aborted := fun _ _ => False.elim }

/-! ### Over a backend -/

/-- The bytes that a descriptor describes. -/
def Descriptor.described (descriptor : Descriptor) (stored : BufferKind → Option Bytes) :
    Option Bytes :=
  (stored descriptor.kind).map fun bytes => bytes.take descriptor.dataSize.toNat

namespace Backend

/-- A commit that fails adds nothing to its batch, and touches no buffer but the one it was lent. -/
def FailsAlone (ν : Type) (backend : Backend S σ ο) (stored : σ → BufferKind → Option Bytes)
    (made : Commit) (batch : Batch) (world : World σ) : Prop :=
  ∀ trace journal error later after,
    backend.environment.Reaches
        (batch.add made.kind made.payload made.macroblocks : Action S ν _).run world trace journal
        (.done (.ok (.error error, later))) after →
      later = batch ∧
        ∃ trial : Trial S, trial.made = made ∧ trial.result = .error (.failure error) ∧
          bufferCalls trace = trial.said ∧
            stored after.driver =
              match trial.lent? with
              | none => stored world.driver
              | some lent => fun other =>
                  if other = made.kind then some (made.written lent) else stored world.driver other

/-- Between two commits of a frame the buffers hold what the commits before have left in them,
failed or not, and a batch that is executed then lists just those that succeeded. -/
def RecordsTrials (backend : Backend S σ ο) (stored : σ → BufferKind → Option Bytes)
    (session : Session) (frame : Frame S ν) (world : World σ) : Prop :=
  ∀ trace journal request resume after,
    backend.environment.Reaches (session.submit frame).run world trace journal
        (.ask request resume) after →
      request.isBetweenCommits →
        ∃ trials, frame.HasTried trials trace ∧ stored after.driver = Trial.stored trials ∧
          ∀ batch, request = .call (.submitBuffers batch) → batch = Trial.descriptors trials

/-- Between two commits of a frame each descriptor describes the payload it was made for, as long
as all later commits of its kind were harmless. -/
def SparesPayloads (backend : Backend S σ ο) (stored : σ → BufferKind → Option Bytes)
    (session : Session) (frame : Frame S ν) (world : World σ) (harmless : Trial S → Prop) : Prop :=
  ∀ trace journal request resume after front trial back descriptor,
    backend.environment.Reaches (session.submit frame).run world trace journal
        (.ask request resume) after →
      request.isBetweenCommits → frame.HasTried (front ++ trial :: back) trace →
        trial.result = .ok descriptor →
          (∀ later ∈ back, later.made.kind = trial.made.kind → harmless later) →
            descriptor.described (stored after.driver) = some trial.made.payload

theorem failsAlone {backend : Backend S σ ο} {stored : σ → BufferKind → Option Bytes}
    (keeps : backend.driver.Keeps stored) (made : Commit) (batch : Batch) (world : World σ) :
    backend.FailsAlone ν stored made batch world := by
  intro trace journal error later after reached
  have tries : (batch.add made.kind made.payload made.macroblocks : Action S ν _).run.Obeys
      (handling fun _ _ => True) _ ⟨[], { stored := stored world.driver }⟩ :=
    add_handled batch made trivial
  obtain ⟨trial, rfl, failed, pushed⟩ :=
    Program.obeys_done.mp (tries.of_follows (fun _ _ => trivial) reached.follows)
  rw [handling_after, Handled.push, Handled.mk.injEq, List.nil_append, List.nil_append] at pushed
  obtain ⟨said, left⟩ := pushed
  have kept := keeps.stored_of_reaches reached
  rw [left, Trial.onto] at kept
  rcases result : trial.result with (given | cause) | descriptor
  · rw [result] at failed
    cases failed
    refine ⟨rfl, trial, rfl, result, said, ?_⟩
    rw [kept]
    cases trial.lent? <;> rfl
  · rw [result] at failed
    cases failed
  · rw [result] at failed
    cases failed

theorem recordsTrials {backend : Backend S σ ο} {stored : σ → BufferKind → Option Bytes}
    (keeps : backend.driver.Keeps stored) (session : Session) (frame : Frame S ν)
    (world : World σ) : backend.RecordsTrials stored session frame world := by
  intro trace journal request resume after reached between
  have handled : (session.submit frame).run.Obeys (handling frame.mayGoOn) _
      ⟨[], { stored := stored world.driver }⟩ := submit_handled rfl
  have rest := handled.of_follows (fun _ _ => trivial) reached.follows
  obtain ⟨trials, starts, shows, submitted⟩ := (Program.obeys_ask.mp rest).1 between
  rw [handling_after] at shows
  exact ⟨trials, ⟨starts, shows.said⟩, (keeps.stored_of_reaches reached).trans shows.stored,
    submitted⟩

/-- A commit that was lent no buffer harms nobody. -/
theorem sparesPayloads {backend : Backend S σ ο} {stored : σ → BufferKind → Option Bytes}
    (keeps : backend.driver.Keeps stored) (session : Session) (frame : Frame S ν)
    (world : World σ) :
    backend.SparesPayloads stored session frame world fun later => later.lent? = none := by
  intro trace journal request resume after front trial back descriptor reached between tried
    succeeded last
  obtain ⟨trials, found, same, _⟩ :=
    recordsTrials keeps session frame world _ _ _ _ _ reached between
  obtain rfl := tried.unique found
  obtain ⟨rfl, _⟩ := Trial.exists_lent succeeded
  have intact : trial.made.StoredIn (Trial.stored (front ++ trial :: back)) :=
    Trial.storedIn_of_last succeeded last
  obtain ⟨size, bytes, kept, starts⟩ := intact
  have kind : trial.made.descriptor.kind = trial.made.kind := rfl
  rw [Descriptor.described, same, kind, kept, size, Option.map_some, starts]

end Backend

/-- A commit that fails leaves the descriptors of its frame as they are, and every payload whose
buffer it is not lent. -/
theorem failed_commits_spare_other_buffers (ν : Type)
    {backend : Backend NamedSurface Scripted.State ο} (backs : Scripted.Backs backend)
    (world : World Scripted.State) :
    (∀ made batch, backend.FailsAlone ν Scripted.State.stored made batch world) ∧
      ∀ (session : Session) (frame : Frame NamedSurface ν),
        backend.RecordsTrials Scripted.State.stored session frame world ∧
          backend.SparesPayloads Scripted.State.stored session frame world fun later =>
            later.lent? = none :=
  ⟨fun made batch => Backend.failsAlone backs.keeps made batch world, fun session frame =>
    ⟨Backend.recordsTrials backs.keeps session frame world,
      Backend.sparesPayloads backs.keeps session frame world⟩⟩

/-! ### A payload that is spoiled -/

/-- A frame whose assembler commits a second bitstream and goes on however that goes. -/
def Frame.respoiled : Frame NamedSurface Empty where
  surface := { name := "s", slice := 0 }
  pictureParameters := [1]
  assembler :=
    .commit .bitstream [1, 2, 3] 0 fun _ => .commit .bitstream [9, 9] 0 fun _ =>
      .commit .sliceControl [8] 0 fun _ => .finish

def Session.plain : Session := { format := .textureArray, lock := .mutex 0 }

namespace Scripted

/-- A driver with small buffers that does not take back the third one. -/
def reluctant : World State :=
  { driver :=
      { script := { capacity := 4, releases := [.ok (), .ok (), .failed .invalidArgument] } } }

/-- The driver once the frame has begun. -/
def reluctantInFrame : World State :=
  { reluctant with locks := reluctant.locks.hold (.mutex 0) }

/-- The small buffer as it is lent. -/
def fourFresh : Bytes := List.replicate 4 freshByte

end Scripted

namespace Trial

/-- A commit that goes well. -/
def fitting (made : Commit) (fits : made.payload.Fits Scripted.fourFresh) : Trial S where
  made := made
  said := made.exchanged Scripted.fourFresh (.ok ())
  result := .ok made.descriptor
  agrees := .committed fits

/-- A commit whose buffer is not taken back. -/
def unreturned (made : Commit) (status : Status) : Trial S where
  made := made
  said := made.exchanged Scripted.fourFresh (.failed status)
  result := .error (.failure (.driver (.releaseBuffer made.kind) status))
  agrees := .releaseFailed Scripted.fourFresh status

def ofParameters : Trial NamedSurface := fitting ⟨.pictureParameters, [1], 0⟩ (by decide)

def ofBitstream : Trial NamedSurface := fitting ⟨.bitstream, [1, 2, 3], 0⟩ (by decide)

def ofSecondBitstream : Trial NamedSurface := unreturned ⟨.bitstream, [9, 9], 0⟩ .invalidArgument

def ofSlices : Trial NamedSurface := fitting ⟨.sliceControl, [8], 0⟩ (by decide)

end Trial

theorem Frame.respoiled_begins :
    ∃ trace journal, Scripted.forwarder.environment.Reaches
        (Session.plain.retry.begin Session.plain.lock Frame.respoiled.surface :
          Action _ Empty Unit).run
        Scripted.reluctant trace journal (.done (.ok ())) Scripted.reluctantInFrame ∧
      bufferCalls trace = [] := by
  have attempted : ∃ trace journal, Scripted.forwarder.environment.Reaches
      (Session.plain.retry.attemptFrom Session.plain.lock Frame.respoiled.surface 1 :
        Action _ Empty Unit).run
      Scripted.reluctantInFrame trace journal (.done (.ok ())) Scripted.reluctantInFrame ∧
        bufferCalls trace = [] := by
    rw [attemptFrom_run]
    exact ⟨_, _, .step rfl (.here _ _), rfl⟩
  obtain ⟨trace, journal, reached, silent⟩ := attempted
  exact ⟨_, _, .step rfl reached, silent⟩

/-- The frame is executed with the second bitstream in place of the first. -/
theorem Frame.respoiled_reaches :
    ∃ trace journal batch resume after,
      Scripted.forwarder.environment.Reaches (Session.plain.submit Frame.respoiled).run
          Scripted.reluctant trace journal (.ask (.call (.submitBuffers batch)) resume) after ∧
        Frame.respoiled.HasTried [.ofParameters, .ofBitstream, .ofSecondBitstream, .ofSlices]
            trace ∧
          after.driver.stored .bitstream = some [9, 9, 0xaa, 0xaa] := by
  -- four commits, of which the third one has a message where the others have none
  have executed : ∃ trace journal batch resume after,
      Scripted.forwarder.environment.Reaches Frame.respoiled.execute.run
          Scripted.reluctantInFrame trace journal (.ask (.call (.submitBuffers batch)) resume)
          after ∧
        bufferCalls trace =
            Trial.dialogue [.ofParameters, .ofBitstream, .ofSecondBitstream, .ofSlices] ∧
          after.driver.stored .bitstream = some [9, 9, 0xaa, 0xaa] := by
    exact ⟨_, _, _, _, _, .step rfl <| .step rfl <| .step rfl <| .step rfl <|
      .step rfl <| .step rfl <| .step rfl <| .step rfl <|
      .step rfl <| .step rfl <| .step rfl <| .step rfl <| .step rfl <|
      .step rfl <| .step rfl <| .step rfl <| .step rfl <| .here _ _, rfl, rfl⟩
  obtain ⟨early, first, begun, silent⟩ := Frame.respoiled_begins
  obtain ⟨late, second, batch, resume, after, worked, said, spoiled⟩ := executed
  rw [submit_run]
  refine ⟨_, _, batch, _, after, begun.bind.trans worked.bind, ⟨?_, ?_⟩, spoiled⟩
  · exact ⟨rfl, rfl, rfl, rfl, trivial⟩
  · rw [bufferCalls_append, silent, said, List.nil_append]

/-- The picture parameters of the frame are what its descriptor describes when it is executed. -/
theorem respoiled_frame_spares_parameters :
    Scripted.Backs Scripted.forwarder ∧
      ∃ trace journal batch resume after,
        Scripted.forwarder.environment.Reaches (Session.plain.submit Frame.respoiled).run
            Scripted.reluctant trace journal (.ask (.call (.submitBuffers batch)) resume) after ∧
          Trial.ofParameters.made.descriptor ∈ batch ∧
            Trial.ofParameters.made.descriptor.described after.driver.stored = some [1] := by
  have backs : Scripted.Backs Scripted.forwarder := .forwarding _ _ _ _
  obtain ⟨_, frames⟩ := failed_commits_spare_other_buffers Empty backs Scripted.reluctant
  obtain ⟨records, spares⟩ := frames Session.plain Frame.respoiled
  obtain ⟨trace, journal, batch, resume, after, reached, tried, _⟩ := Frame.respoiled_reaches
  obtain ⟨trials, found, _, submitted⟩ := records _ _ _ _ _ reached trivial
  obtain rfl := tried.unique found
  have others : ∀ later ∈ [Trial.ofBitstream, .ofSecondBitstream, .ofSlices],
      later.made.kind = .pictureParameters → later.lent? = none := by
    intro later member same
    simp only [List.mem_cons, List.not_mem_nil, or_false] at member
    rcases member with rfl | rfl | rfl <;> cases same
  refine ⟨backs, trace, journal, batch, resume, after, reached, ?_,
    spares _ _ _ _ _ [] _ _ _ reached trivial tried rfl others⟩
  rw [submitted batch rfl]
  exact List.mem_cons_self

/-- A commit that fails because its buffer is not taken back has spoiled the payload in it. -/
theorem failed_commit_spoils_payload :
    Scripted.Backs Scripted.forwarder ∧
      ¬Scripted.forwarder.SparesPayloads Scripted.State.stored Session.plain Frame.respoiled
        Scripted.reluctant fun later => ∃ error, later.result = .error (.failure error) := by
  refine ⟨.forwarding _ _ _ _, fun spares => ?_⟩
  obtain ⟨trace, journal, batch, resume, after, reached, tried, spoiled⟩ :=
    Frame.respoiled_reaches
  have failing : ∀ later ∈ [Trial.ofSecondBitstream, .ofSlices],
      later.made.kind = .bitstream → ∃ error, later.result = .error (.failure error) := by
    intro later member same
    simp only [List.mem_cons, List.not_mem_nil, or_false] at member
    rcases member with rfl | rfl
    · exact ⟨_, rfl⟩
    · cases same
  have intact : Trial.ofBitstream.made.descriptor.described after.driver.stored = some [1, 2, 3] :=
    spares _ _ _ _ _ [.ofParameters] _ _ _ reached trivial tried rfl failing
  have described : Trial.ofBitstream.made.descriptor.described after.driver.stored =
      some [9, 9, 0xaa] := by
    have kind : Trial.ofBitstream.made.descriptor.kind = .bitstream := rfl
    rw [Descriptor.described, kind, spoiled]
    rfl
  rw [described] at intact
  cases intact

end HardwareDecode
