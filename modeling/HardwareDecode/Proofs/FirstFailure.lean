/-
Module: HardwareDecode.Proofs.FirstFailure
Purpose: What a submission over a backend gives: the result of its first step to fail, with the
  later steps left out, the frame ended if it began, and the frame counted if nothing failed.
Main exports: Session.counting, perform_submit_speaks, Program.Speaks.of_reaches,
  submission_gives_first_failure
-/
import HardwareDecode.Backend.TextureArray
import HardwareDecode.Driver.Scripted
import HardwareDecode.Proofs.LockDiscipline
import HardwareDecode.Proofs.Speaking

namespace HardwareDecode

variable {S ν σ ο α : Type}

/-- The session after a submission with a given result: a frame counts if nothing failed. -/
def Session.counting (session : Session) : Except Interruption Unit → Session
  | .ok () => { session with framesSubmitted := session.framesSubmitted + 1 }
  | .error _ => session

theorem perform_submit_speaks {session : Session} {frame : Frame S ν} :
    (session.perform (.submit frame)).Obeys (recording (AbortedDialogue session.retry frame))
      (fun said done => ∃ result, SubmissionDialogue session.retry frame said result ∧
        done = (.submitted result, session.counting result)) [] := by
  rw [Session.perform, Program.obeys_bind]
  apply submit_speaks.weaken
  rintro said _ ⟨result, spoken, rfl⟩
  cases result with
  | ok _ => exact Program.obeys_done.mpr ⟨.ok (), spoken, rfl⟩
  | error interruption => exact Program.obeys_done.mpr ⟨.error interruption, spoken, rfl⟩

theorem Backend.keepsStep_recording (backend : Backend S σ ο) (aborts : Dialogue S → Prop) :
    (backend.environment : Environment S ν (World σ) (Entry ο ν)).KeepsStep (recording aborts)
      fun _ _ => True := by
  intro said world request served _ _ answered
  refine ⟨?_, trivial⟩
  cases request with
  | sleep _ =>
      cases answered
      rfl
  | _ => trivial

/-- What is left of a program agrees with what was said before. -/
theorem Program.Obeys.of_reaches_recording {backend : Backend S σ ο} {aborts : Dialogue S → Prop}
    {ends : Dialogue S → α → Prop} {program rest : Program S ν α} {world after : World σ}
    {trace : List (Exchange S ν)} {journal : List (Entry ο ν)}
    (obeys : program.Obeys (recording aborts) ends [])
    (reached : backend.environment.Reaches program world trace journal rest after) :
    rest.Obeys (recording aborts) ends (driverCalls trace) := by
  have later := (obeys.of_reaches (backend.keepsStep_recording aborts) trivial reached).1
  rw [recording_after, List.nil_append] at later
  exact later

/-- A program that finished has said what agrees with its result. -/
theorem Program.Speaks.of_reaches {backend : Backend S σ ο} {grammar : Dialogue S → α → Prop}
    {program : Program S ν α} {result : α} {world after : World σ} {trace : List (Exchange S ν)}
    {journal : List (Entry ο ν)} (speaks : program.Speaks grammar)
    (reached : backend.environment.Reaches program world trace journal (.done result) after) :
    grammar (driverCalls trace) result := by
  have spoken := (speaks (fun _ => True) []).of_reaches_recording reached
  obtain ⟨said, same, agrees⟩ := Program.obeys_done.mp spoken
  rw [List.nil_append] at same
  rw [same]
  exact agrees

/-- Over a backend the submission of a frame comes to an end.  It finishes with the one result that
belongs to what was said, and the session counts the frame accordingly, or it is given up because
two panics came together. -/
def Backend.SettlesSubmission (backend : Backend S σ ο) (session : Session) (frame : Frame S ν)
    (world : World σ) : Prop :=
  ∃ trace journal rest after,
    backend.environment.Reaches (session.perform (.submit frame)) world trace journal rest after ∧
      ((∃ result, rest = .done (.submitted result, session.counting result) ∧
          SubmissionDialogue session.retry frame (driverCalls trace) result ∧
            ∀ other, SubmissionDialogue session.retry frame (driverCalls trace) other →
              other = result) ∨
        (∃ resume, rest = .ask .abort resume) ∧
          AbortedDialogue session.retry frame (driverCalls trace))

theorem submission_gives_first_failure {backend : Backend S σ ο} {session : Session}
    {frame : Frame S ν} {world : World σ} (free : world.locks.isFree session.lock = true) :
    backend.SettlesSubmission session frame world := by
  have framed : (session.perform (.submit frame)).Obeys (framing session.lock) _ .idle :=
    perform_framed
  obtain ⟨trace, journal, rest, after, reached, stopped⟩ :=
    framed.exists_stop_framed (Phase.inStep_idle free)
  have spoken := perform_submit_speaks.of_reaches_recording reached
  refine ⟨trace, journal, rest, after, reached, ?_⟩
  rcases stopped with ⟨done, rfl⟩ | ⟨resume, rfl⟩
  · obtain ⟨result, said, rfl⟩ := Program.obeys_done.mp spoken
    exact .inl ⟨result, rfl, said, fun other also => also.unique said⟩
  · exact .inr ⟨⟨resume, rfl⟩, (Program.obeys_ask.mp spoken).1⟩

/-- A scripted video context whose users share one mutex. -/
def Scripted.context :
    Backend NamedSurface Scripted.State (Scripted.Event ContextDescriptor) :=
  TextureArray.backend (Scripted.driver (.mutex 0)) (.mutex 0) NamedSurface.slice

/-- A payload that is too large for its buffer, and a buffer that cannot be given back: two failures
of one commit come together. -/
theorem submission_gives_failed_release :
    ({} : Locks).isFree (.mutex 0) = true ∧
      Scripted.context.SettlesSubmission { format := .textureArray, lock := .mutex 0 }
        { surface := { name := "s", slice := 0 }
          pictureParameters := [1, 2, 3]
          assembler := (.finish : Assembler Empty) }
        { driver := { script := { capacity := 2, releases := [.failed .pending] } } } :=
  ⟨rfl, submission_gives_first_failure rfl⟩

end HardwareDecode
