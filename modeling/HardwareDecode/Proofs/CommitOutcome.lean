/-
Module: HardwareDecode.Proofs.CommitOutcome
Purpose: What a commit does to the buffer it borrows and to the batch it belongs to.  It succeeds
  exactly if the buffer was lent, the payload fits and the buffer was taken back.  When the buffer
  is given back it holds the payload in front of its old bytes, or is as it was lent.  A batch holds
  the descriptors of the commits that succeeded, in their order.
Main exports: tracing, Shelf.after, Commit.written, Commit.Settled, Commit.Goes, commit_goes,
  commit_traced, Batch.added, Backend.SettlesCommit, commits_fill_buffers_and_batches
-/
import HardwareDecode.Proofs.CommitHistory
import HardwareDecode.Proofs.ErrorLogging
import HardwareDecode.Proofs.FirstFailure
import HardwareDecode.Proofs.PayloadIntegrity

namespace HardwareDecode

variable {S ν σ ο α : Type}

/-! ### Programs with their traces -/

/-- Every exchange is remembered, and `judge` says what may be asked for behind which exchanges. -/
def tracing (judge : List (Exchange S ν) → Request S ν → Prop) :
    Protocol S ν (List (Exchange S ν)) where
  allows := judge
  next trace request answer := trace ++ [⟨request, answer⟩]

theorem tracing_after (judge : List (Exchange S ν) → Request S ν → Prop)
    (earlier trace : List (Exchange S ν)) :
    (tracing judge).after earlier trace = earlier ++ trace := by
  induction trace generalizing earlier with
  | nil => simp [Protocol.after]
  | cons exchange trace inductionHypothesis =>
      have later := inductionHypothesis (earlier ++ [exchange])
      simp only [List.append_assoc, List.cons_append, List.nil_append] at later
      exact later

/-- What is left of a program obeys behind the trace along which it was reached. -/
theorem Program.Obeys.of_reaches_tracing {backend : Backend S σ ο}
    {judge : List (Exchange S ν) → Request S ν → Prop} {ends : List (Exchange S ν) → α → Prop}
    {program rest : Program S ν α} {world after : World σ} {trace : List (Exchange S ν)}
    {journal : List (Entry ο ν)} (obeys : program.Obeys (tracing judge) ends [])
    (reached : backend.environment.Reaches program world trace journal rest after) :
    rest.Obeys (tracing judge) ends trace := by
  have keeps : (backend.environment : Environment S ν _ _).KeepsStep (tracing judge)
      fun _ _ => True := fun _ _ _ => ⟨trivial, trivial⟩
  have later := (obeys.of_reaches keeps trivial reached).1
  rw [tracing_after, List.nil_append] at later
  exact later

/-- A program that only works on a frame is never kept waiting. -/
theorem Backend.exists_done (backend : Backend S σ ο) (world : World σ) {program : Program S ν α}
    (asks : program.Asks Request.worksOnFrame) :
    ∃ trace journal value after,
      backend.environment.Reaches program world trace journal (.done value) after := by
  have answers : ∀ {state : Unit} {world : World σ} {request : Request S ν}, True →
      (Protocol.asking Request.worksOnFrame).allows state request → request ≠ .abort →
        ∃ served,
          (backend.environment : Environment S ν _ _).serve request world = some served := by
    intro state world request _ works goesOn
    apply backend.exists_served
    · intro lock takes
      subst takes
      exact False.elim works
    · exact goesOn
  have keeps : (backend.environment : Environment S ν _ _).KeepsStep
      (.asking Request.worksOnFrame) fun _ _ => True := fun _ _ _ => ⟨trivial, trivial⟩
  obtain ⟨trace, journal, rest, after, reached, stopped⟩ :=
    asks.exists_stop keeps answers trivial
  rcases stopped with ⟨value, rfl⟩ | ⟨resume, rfl⟩
  · exact ⟨trace, journal, value, after, reached⟩
  · have aborts := (asks.of_reaches keeps trivial reached).1
    exact False.elim (Program.obeys_ask.mp aborts).1

/-! ### One commit -/

/-- The buffers after a sequence of exchanges: what was lent last, with what was written into it. -/
def Shelf.after (shelf : Shelf) (trace : List (Exchange S ν)) : Shelf :=
  trace.foldl (fun shelf exchange => shelf.next exchange.request exchange.answer) shelf

theorem Shelf.after_append (shelf : Shelf) (front back : List (Exchange S ν)) :
    shelf.after (front ++ back) = (shelf.after front).after back :=
  List.foldl_append

instance (payload lent : Bytes) : Decidable (payload.Fits lent) :=
  inferInstanceAs (Decidable (_ ∧ _))

/-- What a lent buffer holds when it is given back: the payload in front of the old bytes behind it,
or just the old bytes if the payload does not fit. -/
def Commit.written (made : Commit) (lent : Bytes) : Bytes :=
  if made.payload.Fits lent then made.payload ++ lent.drop made.payload.length else lent

theorem Commit.length_written (made : Commit) (lent : Bytes) :
    (made.written lent).length = lent.length := by
  unfold written
  split
  next fits => exact Bytes.length_overlay fits.2
  next => rfl

namespace Commit

/-- The calls of a commit whose buffer was lent. -/
def exchanged (made : Commit) (lent : Bytes) (outcome : Outcome Unit) : Dialogue S :=
  [⟨.getBuffer made.kind, .ok lent⟩, ⟨.releaseBuffer made.kind, outcome⟩]

/-- A buffer may be given back only once it was lent and holds what the commit is to leave in it,
with all other buffers as they were. -/
def mayAsk (made : Commit) (trace : List (Exchange S ν)) : Request S ν → Prop
  | .call (.releaseBuffer kind) =>
      kind = made.kind ∧ ∃ lent, driverCalls trace = [⟨.getBuffer made.kind, .ok lent⟩] ∧
        ∀ shelf : Shelf, shelf.after trace = shelf.put made.kind (made.written lent)
  | _ => True

/-- What a commit came to along a trace. -/
structure Settled (made : Commit) (trace : List (Exchange S ν))
    (result : Except Interruption Descriptor) : Prop where
  succeeds : ∀ descriptor, result = .ok descriptor ↔
    descriptor = ⟨made.kind, .ofNat made.payload.length, made.macroblocks⟩ ∧
      ∃ lent, driverCalls trace = made.exchanged lent (.ok ()) ∧ made.payload.Fits lent
  /-- A buffer that was lent is given back. -/
  returned : ∀ lent, ⟨.getBuffer made.kind, .ok lent⟩ ∈ driverCalls trace →
    ∃ outcome, driverCalls trace = made.exchanged lent outcome
  /-- If no buffer is had, none is given back and none is touched. -/
  refused : ∀ status, ⟨.getBuffer made.kind, .failed status⟩ ∈ driverCalls trace →
    driverCalls trace = [⟨.getBuffer made.kind, .failed status⟩] ∧
      ∀ shelf : Shelf, shelf.after trace = shelf

end Commit

open HardwareDecode.Action

/-- The exchanges in which a payload is written into a lent buffer, or refused. -/
def Commit.filling (made : Commit) (lent : Bytes) : List (Exchange S ν) :=
  if made.payload.Fits lent then
    [⟨.store made.kind (made.written lent), ()⟩,
      ⟨.log (.committed (.ofNat made.payload.length) made.kind), ()⟩]
  else [⟨.log (.tooSmall made.kind), ()⟩]

/-- What comes of a payload for a lent buffer. -/
def Commit.filled (made : Commit) (lent : Bytes) : Except FrameError Descriptor :=
  if made.payload.Fits lent then .ok made.descriptor
  else .error (.bufferTooSmall made.kind made.payload.length lent.length)

theorem Commit.driverCalls_filling (made : Commit) (lent : Bytes) :
    driverCalls (made.filling lent : List (Exchange S ν)) = [] := by
  unfold filling
  split <;> rfl

/-- Of all buffers just the lent one is changed. -/
theorem Commit.after_filling (made : Commit) (lent : Bytes) (shelf : Shelf) :
    (shelf.put made.kind lent).after (made.filling lent : List (Exchange S ν)) =
      shelf.put made.kind (made.written lent) := by
  by_cases fits : made.payload.Fits lent
  · simp [filling, fits, Shelf.after, Shelf.next]
  · simp [filling, fits, Shelf.after, Shelf.next, written]

/-- A protocol in which buffers may be written and messages given sees just this of it. -/
theorem fill_obeys {τ : Type} {protocol : Protocol S ν τ} {state : τ} {made : Commit}
    (stores : ∀ state bytes, protocol.allows state (.store made.kind bytes))
    (logs : ∀ state record, protocol.allows state (.log record)) (lent : Bytes) :
    (fill made.kind made.payload lent made.macroblocks : Action S ν Descriptor).run.Obeys protocol
      (fun after result => after = protocol.after state (made.filling lent) ∧
        attempted result = .ok (made.filled lent)) state := by
  by_cases fits : made.payload.Fits lent
  · have fitting : made.payload.length < UInt32.size ∧ made.payload.length ≤ lent.length := fits
    have written : made.written lent = lent.overlay made.payload := if_pos fits
    rw [fill, if_pos fitting, Commit.filling, if_pos fits, Commit.filled, if_pos fits, written]
    apply obeys_bind.mpr
    refine obeys_store.mpr ⟨stores _ _, fun _ _ => ?_⟩
    apply obeys_bind.mpr
    exact obeys_log.mpr ⟨logs _ _, fun _ _ => obeys_pure.mpr ⟨rfl, rfl⟩⟩
  · have large : ¬(made.payload.length < UInt32.size ∧ made.payload.length ≤ lent.length) := fits
    rw [fill, if_neg large, Commit.filling, if_neg fits, Commit.filled, if_neg fits]
    apply obeys_bind.mpr
    exact obeys_log.mpr ⟨logs _ _, fun _ _ => obeys_fail.mpr ⟨rfl, rfl⟩⟩

/-- The exchanges of a commit up to the return of the buffer it was lent. -/
def Commit.borrowing (made : Commit) (lent : Bytes) : List (Exchange S ν) :=
  ⟨.call (.getBuffer made.kind), .ok lent⟩ :: made.filling lent

/-- All that can happen in a commit, and what comes of it. -/
inductive Commit.Goes (made : Commit) :
    List (Exchange S ν) → Except Interruption Descriptor → Prop where
  | getFailed (status : Status) :
      Goes made
        [⟨.call (.getBuffer made.kind), .failed status⟩,
          ⟨.log (.getFailed made.kind status), ()⟩]
        (.error (.failure (.driver (.getBuffer made.kind) status)))
  | getPanicked (cause : Panic) :
      Goes made [⟨.call (.getBuffer made.kind), .panicked cause⟩] (.error (.panic cause))
  | releaseFailed (lent : Bytes) (status : Status) :
      Goes made
        (made.borrowing lent ++
          [⟨.call (.releaseBuffer made.kind), .failed status⟩,
            ⟨.log (.releaseFailed made.kind status), ()⟩])
        (.error (.failure (.driver (.releaseBuffer made.kind) status)))
  | releasePanicked (lent : Bytes) (cause : Panic) :
      Goes made
        (made.borrowing lent ++ [⟨.call (.releaseBuffer made.kind), .panicked cause⟩])
        (.error (.panic cause))
  | tooSmall {lent : Bytes} (large : ¬made.payload.Fits lent) :
      Goes made (made.borrowing lent ++ [⟨.call (.releaseBuffer made.kind), .ok ()⟩])
        (.error (.failure (.bufferTooSmall made.kind made.payload.length lent.length)))
  | committed {lent : Bytes} (fits : made.payload.Fits lent) :
      Goes made (made.borrowing lent ++ [⟨.call (.releaseBuffer made.kind), .ok ()⟩])
        (.ok made.descriptor)

/-- A protocol that grants the calls of a commit, and stores and messages at any time, sees one of
these. -/
theorem commit_goes {τ : Type} {protocol : Protocol S ν τ} {state : τ} (made : Commit)
    (gets : protocol.allows state (.call (.getBuffer made.kind)))
    (stores : ∀ state bytes, protocol.allows state (.store made.kind bytes))
    (logs : ∀ state record, protocol.allows state (.log record))
    (releases : ∀ lent, protocol.allows (protocol.after state (made.borrowing lent))
      (.call (.releaseBuffer made.kind))) :
    (commit made.kind made.payload made.macroblocks : Action S ν Descriptor).run.Obeys protocol
      (fun after result => ∃ trace, made.Goes trace result ∧ after = protocol.after state trace)
      state := by
  rw [commit, obeys_bind, obeys_call]
  refine ⟨gets, fun got _ => ?_⟩
  cases got with
  | failed status =>
      apply obeys_bind.mpr
      exact obeys_log.mpr ⟨logs _ _, fun _ _ => obeys_fail.mpr ⟨_, .getFailed status, rfl⟩⟩
  | panicked cause => exact ⟨_, .getPanicked cause, rfl⟩
  | ok lent =>
      apply obeys_bind.mpr
      apply obeys_attempt.mpr
      apply (fill_obeys stores logs lent).weaken
      intro between result filled
      obtain ⟨rfl, answered⟩ := filled
      rw [answered]
      apply obeys_bind.mpr
      refine obeys_call.mpr ⟨releases lent, fun released _ => ?_⟩
      -- what comes behind the buffer is said from where its return was asked for
      have behind (later : List (Exchange S ν)) :
          protocol.after state (made.borrowing lent ++ later) =
            protocol.after (protocol.after state (made.borrowing lent)) later :=
        List.foldl_append
      cases released with
      | failed status =>
          apply obeys_bind.mpr
          refine obeys_log.mpr ⟨logs _ _, fun _ _ => obeys_fail.mpr ?_⟩
          exact ⟨_, .releaseFailed lent status, by rw [behind]; rfl⟩
      | panicked cause => exact ⟨_, .releasePanicked lent cause, by rw [behind]; rfl⟩
      | ok _ =>
          by_cases fits : made.payload.Fits lent
          · rw [Commit.filled, if_pos fits]
            exact obeys_pure.mpr ⟨_, .committed fits, by rw [behind]; rfl⟩
          · rw [Commit.filled, if_neg fits]
            exact obeys_fail.mpr ⟨_, .tooSmall fits, by rw [behind]; rfl⟩

namespace Commit

@[simp] theorem driverCalls_borrowing (made : Commit) (lent : Bytes) :
    driverCalls (made.borrowing lent : List (Exchange S ν)) =
      [⟨.getBuffer made.kind, .ok lent⟩] := by
  have split : (made.borrowing lent : List (Exchange S ν)) =
      [⟨.call (.getBuffer made.kind), .ok lent⟩] ++ made.filling lent := rfl
  rw [split, driverCalls_append, made.driverCalls_filling]
  rfl

/-- Of all buffers just the one that was lent is changed. -/
theorem after_borrowing (made : Commit) (lent : Bytes) (shelf : Shelf) :
    shelf.after (made.borrowing lent : List (Exchange S ν)) =
      shelf.put made.kind (made.written lent) :=
  made.after_filling lent shelf

namespace Goes

variable {made : Commit} {trace : List (Exchange S ν)} {result : Except Interruption Descriptor}

/-- What is said in a commit follows its grammar. -/
theorem agrees (goes : made.Goes trace result) :
    CommitDialogue made.kind made.payload made.macroblocks (driverCalls trace) result := by
  cases goes with
  | getFailed status => exact .getFailed status
  | getPanicked cause => exact .getPanicked cause
  | releaseFailed lent status =>
      rw [driverCalls_append, driverCalls_borrowing]
      exact .releaseFailed lent status
  | releasePanicked lent cause =>
      rw [driverCalls_append, driverCalls_borrowing]
      exact .releasePanicked lent cause
  | tooSmall large =>
      rw [driverCalls_append, driverCalls_borrowing]
      exact .tooSmall large
  | committed fits =>
      rw [driverCalls_append, driverCalls_borrowing]
      exact .committed fits

/-- Without a buffer none is touched. -/
theorem touches (goes : made.Goes trace result) :
    (∃ lent, ⟨.getBuffer made.kind, .ok lent⟩ ∈ driverCalls trace) ∨
      ∀ shelf : Shelf, shelf.after trace = shelf := by
  cases goes with
  | getFailed | getPanicked => exact .inr fun _ => rfl
  | _ =>
      rw [driverCalls_append, driverCalls_borrowing]
      exact .inl ⟨_, List.mem_cons_self⟩

end Goes

end Commit

/-- Whatever the driver answers, the lent buffer is given back as it must be. -/
theorem commit_traced (made : Commit) :
    (commit made.kind made.payload made.macroblocks : Action S ν Descriptor).run.Obeys
      (tracing made.mayAsk) (fun trace result => made.Goes trace result) [] := by
  have releases : ∀ lent, (tracing made.mayAsk).allows
      ((tracing made.mayAsk).after [] (made.borrowing lent : List (Exchange S ν)))
      (.call (.releaseBuffer made.kind)) := by
    intro lent
    rw [tracing_after, List.nil_append]
    exact ⟨rfl, lent, made.driverCalls_borrowing lent, made.after_borrowing lent⟩
  apply (commit_goes made trivial (fun _ _ => trivial) (fun _ _ => trivial) releases).weaken
  intro after result gone
  obtain ⟨trace, goes, rfl⟩ := gone
  rw [tracing_after, List.nil_append]
  exact goes

/-- What was said in a commit settles what it came to. -/
theorem Commit.Goes.settled {made : Commit} {trace : List (Exchange S ν)}
    {result : Except Interruption Descriptor} (goes : made.Goes trace result) :
    made.Settled trace result := by
  have said := goes.agrees
  constructor
  · intro descriptor
    generalize driverCalls trace = dialogue at said
    cases said with
    | committed fits => simp [exchanged, Bytes.describe, fits, eq_comm]
    | tooSmall large => simp [exchanged, large]
    | _ => simp [exchanged]
  · intro lent member
    generalize driverCalls trace = dialogue at said member
    cases said with
    | getFailed | getPanicked => simp at member
    | releaseFailed | releasePanicked | tooSmall | committed =>
        simp only [List.mem_cons, Answered.mk.injEq, heq_eq_eq, true_and, reduceCtorEq, false_and,
          List.not_mem_nil, or_false, Outcome.ok.injEq] at member
        subst member
        exact ⟨_, rfl⟩
  · intro status member
    have refused : driverCalls trace = [⟨.getBuffer made.kind, .failed status⟩] := by
      generalize driverCalls trace = dialogue at said member
      cases said with
      | getFailed other =>
          simp only [List.mem_singleton, Answered.mk.injEq, heq_eq_eq, true_and,
            Outcome.failed.injEq] at member
          rw [member]
      | _ => simp at member
    refine ⟨refused, ?_⟩
    rcases goes.touches with lends | untouched
    · obtain ⟨lent, found⟩ := lends
      simp [refused] at found
    · exact untouched

/-! ### Batches -/

/-- What a commit with a given result is for the batch it belongs to: a failure is an answer like a
success, and just a descriptor is added. -/
def Batch.added (batch : Batch) (result : Except Interruption Descriptor) :
    Except Interruption (Except FrameError Descriptor × Batch) :=
  (attempted result).map fun answer => (answer, answer.toOption.elim batch batch.push)

theorem Batch.run_add (batch : Batch) (made : Commit) :
    (batch.add made.kind made.payload made.macroblocks : Action S ν _).run =
      batch.added <$>
        (commit made.kind made.payload made.macroblocks : Action S ν Descriptor).run := by
  rw [Batch.add, ExceptT.run_bind, attempt, ExceptT.run_mk, bind_map_left, map_eq_pure_bind]
  refine bind_congr fun result => ?_
  rcases result with (error | cause) | descriptor <;> rfl

/-! ### Commits over a backend -/

/-- What a driver keeps is what was lent and written. -/
theorem Driver.Keeps.stored_of_reaches {backend : Backend S σ ο}
    {stored : σ → BufferKind → Option Bytes} (keeps : backend.driver.Keeps stored)
    {program rest : Program S ν α} {world after : World σ} {trace : List (Exchange S ν)}
    {journal : List (Entry ο ν)}
    (reached : backend.environment.Reaches program world trace journal rest after) :
    stored after.driver = (Shelf.after { stored := stored world.driver } trace).stored := by
  -- nothing is asked of the program: the shelf only goes along
  have obeys : program.Obeys (shelving fun _ _ => True) (fun _ _ => True)
      { stored := stored world.driver } := by
    apply program.obeys_of_permissive
    intro shelf request
    cases request with
    | call call => cases call <;> trivial
    | _ => trivial
  exact (obeys.of_reaches (Backend.keepsStep_shelving keeps) rfl reached).2

namespace Backend

/-- Over a backend a commit comes to an end, and what was said in it settles its result.  As a part
of a batch it goes the same way. -/
def SettlesCommit (ν : Type) (backend : Backend S σ ο) (made : Commit) (world : World σ) : Prop :=
  ∃ trace journal result after,
    backend.environment.Reaches
        (commit made.kind made.payload made.macroblocks : Action S ν Descriptor).run world trace
        journal (.done result) after ∧
      made.Settled trace result ∧
        (∀ status, ⟨.getBuffer made.kind, .failed status⟩ ∈ driverCalls trace →
          ∀ stored, backend.driver.Keeps stored → stored after.driver = stored world.driver) ∧
          ∀ batch : Batch,
            backend.environment.Reaches
              (batch.add made.kind made.payload made.macroblocks : Action S ν _).run world trace
              journal (.done (batch.added result)) after

/-- Whenever a commit gives a buffer back, the buffer has its old length and holds the payload in
front of its old bytes, or is as it was lent. -/
def FillsBuffer (ν : Type) (backend : Backend S σ ο) (made : Commit) (world : World σ) : Prop :=
  ∀ trace journal kind resume after,
    backend.environment.Reaches
        (commit made.kind made.payload made.macroblocks : Action S ν Descriptor).run world trace
        journal (.ask (.call (.releaseBuffer kind)) resume) after →
      kind = made.kind ∧
        ∃ lent, driverCalls trace = [⟨.getBuffer made.kind, .ok lent⟩] ∧
          (made.written lent).length = lent.length ∧
            (∀ shelf : Shelf, shelf.after trace = shelf.put made.kind (made.written lent)) ∧
              ∀ stored, backend.driver.Keeps stored → stored after.driver =
                fun other => if other = made.kind then some (made.written lent)
                  else stored world.driver other

/-- Over a backend a strategy comes to an end, and the batch it leaves has just the descriptors of
those of its commits that succeeded, in their order. -/
def SettlesAssembly (backend : Backend S σ ο) (assembler : Assembler ν) (batch : Batch)
    (world : World σ) : Prop :=
  ∃ trials ended trace journal after,
    backend.environment.Reaches (assembler.assemble batch).run world trace journal
        (.done (Trial.leaves batch.descriptors trials ended)) after ∧
      assembler.Tries batch.descriptors trials ended ∧ driverCalls trace = Trial.dialogue trials

theorem settlesCommit (backend : Backend S σ ο) (made : Commit) (world : World σ) :
    backend.SettlesCommit ν made world := by
  have asks : (commit made.kind made.payload made.macroblocks : Action S ν Descriptor).run.Asks _ :=
    commit_asks
  obtain ⟨trace, journal, result, after, reached⟩ := backend.exists_done world asks
  have settled := (Program.obeys_done.mp ((commit_traced made).of_reaches_tracing reached)).settled
  refine ⟨trace, journal, result, after, reached, settled, ?_, ?_⟩
  · intro status failed stored keeps
    rw [keeps.stored_of_reaches reached, (settled.refused status failed).2]
  · intro batch
    rw [batch.run_add, map_eq_pure_bind]
    exact reached.bind

theorem fillsBuffer (backend : Backend S σ ο) (made : Commit) (world : World σ) :
    backend.FillsBuffer ν made world := by
  intro trace journal kind resume after reached
  obtain ⟨same, lent, called, left⟩ :=
    (Program.obeys_ask.mp ((commit_traced made).of_reaches_tracing reached)).1
  refine ⟨same, lent, called, made.length_written lent, left, ?_⟩
  intro stored keeps
  rw [keeps.stored_of_reaches reached, left]
  rfl

theorem settlesAssembly (backend : Backend S σ ο) (assembler : Assembler ν) (batch : Batch)
    (world : World σ) : backend.SettlesAssembly assembler batch world := by
  have asks : (assembler.assemble batch : Action S ν Batch).run.Asks _ := assemble_asks
  obtain ⟨trace, journal, result, after, reached⟩ := backend.exists_done world asks
  have said := assemble_speaks.of_reaches reached
  obtain ⟨trials, ended, tries, same, left⟩ := said.exists_tries
  exact ⟨trials, ended, trace, journal, after, left ▸ reached, tries, same⟩

end Backend

/-- Each commit fills the buffer it was lent or leaves it alone, and each batch holds the
descriptors of the commits that succeeded. -/
theorem commits_fill_buffers_and_batches (ν : Type) (backend : Backend S σ ο) (world : World σ) :
    (∀ made, backend.SettlesCommit ν made world ∧ backend.FillsBuffer ν made world) ∧
      ∀ (assembler : Assembler ν) (batch : Batch),
        backend.SettlesAssembly assembler batch world :=
  ⟨fun made => ⟨backend.settlesCommit made world, backend.fillsBuffer made world⟩,
    fun assembler batch => backend.settlesAssembly assembler batch world⟩

end HardwareDecode
