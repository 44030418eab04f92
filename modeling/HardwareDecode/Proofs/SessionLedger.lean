/-
Module: HardwareDecode.Proofs.SessionLedger
Purpose: What a session keeps to and what it counts while it lives: it stays with the format and the
  lock that it was opened with, asks for that lock once, and numbers the frames it decoded without a
  gap, whatever becomes of the submissions in between.
Main exports: LogRecord.submission?_eq_some_iff, submissionNumbers, Session.Books, perform_books,
  Session.Account, performAll_accounts, Backend.KeepsAccount, sessions_keep_account
-/
import HardwareDecode.Proofs.FirstFailure
import HardwareDecode.Proofs.MessageIdentity
import HardwareDecode.Proofs.PayloadIntegrity

namespace HardwareDecode

variable {S ν σ ο : Type}

/-- The number of a message that a frame was decoded. -/
def LogRecord.submission? : LogRecord → Option UInt64
  | .submitted count => some count
  | _ => none

/-- A record has a number exactly if its level and its text say that this frame was submitted. -/
theorem LogRecord.submission?_eq_some_iff {record : LogRecord} {count : UInt64} :
    record.submission? = some count ↔
      record.message = (.debug, "Submitted frame " ++ toString count.toNat) := by
  constructor
  · intro numbered
    cases record with
    | submitted given =>
        cases numbered
        rfl
    | _ => cases numbered
  · intro reads
    obtain ⟨level, text⟩ := Prod.mk.inj reads
    cases record with
    | submitted given =>
        have numbers := eq_of_toString ((String.append_right_inj _).mp text)
        rw [UInt64.toNat_inj.mp numbers]
        rfl
    | beganAfter attempts =>
        change "Began frame after " ++ toString attempts.toNat ++ " attempts" = _ at text
        simp [← String.toList_inj] at text
    | _ => cases level

def Request.submission? : Request S ν → Option UInt64
  | .log record => record.submission?
  | _ => none

/-- The numbers of the decoded frames, as they were logged. -/
def submissionNumbers (trace : List (Exchange S ν)) : List UInt64 :=
  trace.filterMap fun exchange => exchange.request.submission?

/-- The rule of those who log numbers of frames, over a backend of some kind. -/
def booking (kind : BackendKind) : Protocol S ν (List UInt64) where
  expects
    | .query .kind, answer => answer = kind
    | _, _ => True
  allows _ _ := True
  next numbers request _ := numbers ++ request.submission?.toList

theorem booking_after {kind : BackendKind} {earlier : List UInt64} (trace : List (Exchange S ν)) :
    (booking kind).after earlier trace = earlier ++ submissionNumbers trace := by
  induction trace generalizing earlier with
  | nil => exact (List.append_nil earlier).symm
  | cons exchange trace inductionHypothesis =>
      refine inductionHypothesis.trans ?_
      simp only [booking, submissionNumbers, List.filterMap_cons, List.append_assoc]
      cases exchange.request.submission? <;> rfl

theorem Backend.keepsStep_booking (backend : Backend S σ ο) :
    (backend.environment : Environment S ν (World σ) (Entry ο ν)).KeepsStep (booking backend.kind)
      fun _ _ => True := by
  intro numbers world request served _ _ answered
  refine ⟨?_, trivial⟩
  cases request with
  | query query =>
      cases query with
      | kind =>
          cases answered
          rfl
      | _ => trivial
  | _ => trivial

/-! ### One step -/

theorem Request.submission?_of_opensFrame {request : Request S ν} (opens : request.opensFrame) :
    request.submission? = none := by
  cases request with
  | log record => cases record <;> first | rfl | exact False.elim opens
  | _ => rfl

theorem Request.submission?_of_worksOnFrame {request : Request S ν}
    (works : request.worksOnFrame) : request.submission? = none := by
  cases request with
  | log record => cases record <;> first | rfl | exact False.elim works
  | _ => rfl

/-- Whoever logs no number leaves the books as they are. -/
theorem booking_of_asks {α : Type} {kind : BackendKind} {numbers : List UInt64}
    {sort : Request S ν → Prop} {program : Program S ν α} (asks : program.Asks sort)
    (unnumbered : ∀ {request : Request S ν}, sort request → request.submission? = none) :
    program.Obeys (booking kind) (fun after _ => after = numbers) numbers := by
  apply asks.obeys
  · exact fun _ _ => trivial
  · intro request sorted answer
    simp only [booking, unnumbered sorted]
    exact List.append_nil numbers

theorem booking_request {kind : BackendKind} {numbers : List UInt64} {request : Request S ν}
    {ends : List UInt64 → request.Answer → Prop} (unnumbered : request.submission? = none)
    (holds : ∀ answer, (booking kind).expects request answer → ends numbers answer) :
    (Program.request request).Obeys (booking kind) ends numbers := by
  refine Program.obeys_request.mpr ⟨trivial, fun answer expected => ?_⟩
  have same : (booking kind).next numbers request answer = numbers := by
    simp only [booking, unnumbered]
    exact List.append_nil numbers
  rw [same]
  exact holds answer expected

/-- A submission is counted and numbered if it succeeds, and leaves nothing behind otherwise. -/
inductive Session.Posts (session : Session) (numbers : List UInt64) :
    List UInt64 → Except Interruption Session → Prop where
  | counted :
      Posts session numbers (numbers ++ [session.framesSubmitted + 1])
        (.ok { session with framesSubmitted := session.framesSubmitted + 1 })
  | uncounted (interruption : Interruption) : Posts session numbers numbers (.error interruption)

theorem booking_ignoresFrees {kind : BackendKind} :
    (booking kind : Protocol S ν (List UInt64)).IgnoresFrees where
  allowed _ _ _ := trivial
  kept numbers _ _ := List.append_nil numbers

theorem close_posts {kind : BackendKind} {session : Session} {numbers : List UInt64}
    (executed : Except Interruption Unit) (outcome : Outcome Unit) :
    (session.close executed outcome : Program S ν _).Obeys (booking kind) (session.Posts numbers)
      numbers := by
  apply booking_ignoresFrees.obeys_close
  · intro status interruption _ _
    have same : (booking kind).next numbers (.log (.endFailed status) : Request S ν) () = numbers :=
      List.append_nil numbers
    rw [same]
    exact ⟨trivial, .uncounted interruption⟩
  · exact fun _ _ => ⟨trivial, .counted⟩
  · exact fun interruption _ _ => .uncounted interruption
  · exact fun _ _ => trivial

theorem submit_posts {kind : BackendKind} {session : Session} {frame : Frame S ν}
    {numbers : List UInt64} :
    (session.submit frame).run.Obeys (booking kind) (session.Posts numbers) numbers := by
  apply submit_obeys_closing (booking_of_asks begin_opensFrame Request.submission?_of_opensFrame)
  · intro _ interruption same
    rw [same]
    exact .uncounted interruption
  · intro _ same
    rw [same]
    apply (booking_of_asks execute_worksOnFrame Request.submission?_of_worksOnFrame).weaken
    intro _ executed kept
    rw [kept]
    refine ⟨trivial, fun outcome _ => ?_⟩
    have next : (booking kind : Protocol S ν _).next numbers (.call .endFrame) outcome = numbers :=
      List.append_nil numbers
    rw [next]
    exact close_posts executed outcome

namespace Session

/-- Whether a frame was decoded. -/
def Result.isDecoded : Result → Bool
  | .submitted (.ok _) => true
  | _ => false

/-- What a session tells of itself is its kind and its format. -/
def Result.Tells (kind : BackendKind) (format : PixelFormat) : Result → Prop
  | .info told named usesDeviceLock =>
      told = kind ∧ named = format ∧ usesDeviceLock = kind.usesDeviceLock
  | _ => True

/-- The books before and after one step, by its result. -/
structure Books (before : Session) (kind : BackendKind) (earlier : List UInt64) (result : Result)
    (after : Session) (numbers : List UInt64) : Prop where
  format : after.format = before.format
  lock : after.lock = before.lock
  tells : result.Tells kind before.format
  counted :
    after.framesSubmitted =
      if result.isDecoded then before.framesSubmitted + 1 else before.framesSubmitted
  numbered :
    numbers = earlier ++ if result.isDecoded then [before.framesSubmitted + 1] else []

end Session

theorem perform_books {kind : BackendKind} {session : Session} {step : Session.Step S ν}
    {earlier : List UInt64} :
    (session.perform step).Obeys (booking kind)
      (fun numbers done => session.Books kind earlier done.1 done.2 numbers) earlier := by
  cases step with
  | submit frame =>
      rw [Session.perform, Program.obeys_bind]
      apply submit_posts.weaken
      intro numbers result posts
      cases posts with
      | counted => exact Program.obeys_done.mpr ⟨rfl, rfl, trivial, rfl, rfl⟩
      | uncounted interruption =>
          exact Program.obeys_done.mpr ⟨rfl, rfl, trivial, rfl, (List.append_nil _).symm⟩
  | setRetry policy =>
      exact Program.obeys_done.mpr ⟨rfl, rfl, trivial, rfl, (List.append_nil _).symm⟩
  | surfaceIndex surface =>
      rw [Session.perform, Program.obeys_bind, Session.surfaceIndex, Program.obeys_bind]
      apply booking_request rfl
      intro index _
      cases index with
      | none | some _ =>
          apply Program.obeys_done.mpr
          exact Program.obeys_done.mpr ⟨rfl, rfl, trivial, rfl, (List.append_nil _).symm⟩
  | info =>
      rw [Session.perform, Program.obeys_bind]
      apply booking_request rfl
      intro told named
      apply Program.obeys_bind.mpr
      apply booking_request rfl
      intro asked again
      obtain rfl : told = kind := named
      obtain rfl : asked = told := again
      exact Program.obeys_done.mpr
        ⟨rfl, rfl, ⟨rfl, rfl, rfl⟩, rfl, (List.append_nil _).symm⟩

/-! ### Runs of any length -/

/-- The numbers that follow a count, as many as there are frames to be numbered. -/
def numbersAfter (count : UInt64) (frames : Nat) : List UInt64 :=
  (List.range' 1 frames).map fun index => count + UInt64.ofNat index

theorem numbersAfter_succ (count : UInt64) (frames : Nat) :
    numbersAfter count (frames + 1) = (count + 1) :: numbersAfter (count + 1) frames := by
  have shift (index : Nat) :
      count + UInt64.ofNat (1 + index) = count + 1 + UInt64.ofNat index := by
    rw [UInt64.ofNat_add, UInt64.add_assoc]
    rfl
  rw [numbersAfter, List.range'_succ, List.map_cons, numbersAfter, ← List.map_add_range' 1,
    List.map_map]
  congr 1
  exact List.map_congr_left fun index _ => shift index

/-- While 64 bits hold the count, the numbers are the ones a reader expects. -/
theorem toNat_numbersAfter_zero {frames : Nat} (bounded : frames < UInt64.size) :
    (numbersAfter 0 frames).map UInt64.toNat = List.range' 1 frames := by
  have same : ∀ index ∈ List.range' 1 frames,
      (UInt64.toNat ∘ fun index => 0 + UInt64.ofNat index) index = id index := by
    intro index member
    have below : index < UInt64.size := by
      have inside := List.mem_range'_1.mp member
      omega
    simp only [Function.comp_apply, UInt64.zero_add, UInt64.toNat_ofNat_of_lt' below, id_eq]
  rw [numbersAfter, List.map_map, List.map_congr_left same, List.map_id]

/-- The books before and after a run, by its results. -/
structure Session.Account (before : Session) (kind : BackendKind) (earlier : List UInt64)
    (results : List Session.Result) (after : Session) (numbers : List UInt64) : Prop where
  format : after.format = before.format
  lock : after.lock = before.lock
  tells : ∀ result ∈ results, result.Tells kind before.format
  counted :
    after.framesSubmitted =
      before.framesSubmitted + UInt64.ofNat (results.countP Session.Result.isDecoded)
  numbered :
    numbers =
      earlier ++
        numbersAfter before.framesSubmitted (results.countP Session.Result.isDecoded)

theorem Session.Account.nil (session : Session) (kind : BackendKind) (earlier : List UInt64) :
    session.Account kind earlier [] session earlier where
  format := rfl
  lock := rfl
  tells := nofun
  counted := (UInt64.add_zero _).symm
  numbered := (List.append_nil earlier).symm

/-- Books kept over one step and then over a run are kept over the longer run. -/
theorem Session.Account.cons {before between after : Session} {kind : BackendKind}
    {earlier middle numbers : List UInt64} {result : Session.Result}
    {results : List Session.Result} (first : before.Books kind earlier result between middle)
    (rest : between.Account kind middle results after numbers) :
    before.Account kind earlier (result :: results) after numbers where
  format := rest.format.trans first.format
  lock := rest.lock.trans first.lock
  tells := by
    intro told member
    rcases List.mem_cons.mp member with rfl | later
    · exact first.tells
    · exact first.format ▸ rest.tells told later
  counted := by
    rw [rest.counted, first.counted, List.countP_cons]
    cases result.isDecoded with
    | false => rfl
    | true =>
        simp only [↓reduceIte]
        rw [UInt64.ofNat_add, UInt64.add_assoc, UInt64.add_comm 1]
        rfl
  numbered := by
    rw [rest.numbered, first.numbered, first.counted, List.countP_cons]
    cases result.isDecoded with
    | false => simp
    | true => simp [numbersAfter_succ]

theorem performAll_accounts {kind : BackendKind} {session : Session}
    {steps : List (Session.Step S ν)} {earlier : List UInt64} :
    (session.performAll steps).Obeys (booking kind)
      (fun numbers done => session.Account kind earlier done.1 done.2 numbers) earlier := by
  induction steps generalizing session earlier with
  | nil => exact Program.obeys_done.mpr (.nil session kind earlier)
  | cons step steps inductionHypothesis =>
      rw [Session.performAll, Program.obeys_bind]
      apply perform_books.weaken
      intro middle done first
      apply Program.obeys_bind.mpr
      have later : (done.2.performAll steps).Obeys (booking kind) _ middle := inductionHypothesis
      apply later.weaken
      intro numbers lived rest
      exact Program.obeys_done.mpr (.cons first rest)

/-! ### The lock of a session -/

/-- Whether a request asks which lock guards the device. -/
def Request.asksLock : Request S ν → Bool
  | .query .deviceLock => true
  | _ => false

/-- The lock that a request takes or lets go of. -/
def Request.lock? : Request S ν → Option DeviceLock
  | .acquire lock | .free lock _ => some lock
  | _ => none

/-- An open session is not opened again, whatever becomes of its lock. -/
theorem Backend.keepsStep_opened (backend : Backend S σ ο) (lock : DeviceLock) :
    (backend.environment : Environment S ν (World σ) (Entry ο ν)).KeepsStep (framing lock)
      fun phase _ => phase ≠ .opening := by
  intro phase world request served opened allowed _
  constructor
  · cases request with
    | query query =>
        cases query with
        | deviceLock =>
            cases phase with
            | opening => exact absurd rfl opened
            | _ => exact False.elim allowed
        | _ => trivial
    | _ => trivial
  · intro opening
    exact opened ((Phase.move_of_allowed allowed served.answer).of_opening opening)

/-- Once it is open, a session asks for no lock and uses none but its own. -/
theorem Phase.lock_of_allows {lock : DeviceLock} {phase : Phase} {request : Request S ν}
    (opened : phase ≠ .opening) (allowed : phase.allows lock request) :
    request.asksLock = false ∧ ∀ used, request.lock? = some used → used = lock := by
  cases request with
  | acquire wanted =>
      cases phase with
      | idle => exact ⟨rfl, fun used same => (Option.some.inj same).symm.trans allowed⟩
      | _ => exact False.elim allowed
  | free held unwinding =>
      cases phase with
      | holding | ended =>
          exact ⟨rfl, fun used same => (Option.some.inj same).symm.trans allowed⟩
      | _ => exact False.elim allowed
  | query query =>
      cases query with
      | deviceLock =>
          cases phase with
          | opening => exact absurd rfl opened
          | _ => exact False.elim allowed
      | _ => exact ⟨rfl, nofun⟩
  | _ => exact ⟨rfl, nofun⟩

/-- A session is opened over a backend of the kind that serves its format, with the lock the backend
names, after one question about each. -/
theorem Backend.opens {backend : Backend S σ ο} {format : PixelFormat} {session : Session}
    {world after : World σ} {trace : List (Exchange S ν)} {journal : List (Entry ο ν)}
    (reached : backend.environment.Reaches (Session.open? format) world trace journal
      (.done (.ok session)) after) :
    format.backend = .ok backend.kind ∧ session = { format, lock := backend.lock } ∧
      trace.map Exchange.request = [.query .kind, .query .deviceLock] := by
  unfold Session.open? at reached
  cases served : format.backend with
  | error refusal =>
      rw [served] at reached
      nomatch reached
  | ok expected =>
      rw [served] at reached
      cases reached with
      | step answered tail =>
        cases answered
        change backend.environment.Reaches (if expected = backend.kind then _ else _) _ _ _ _ _
          at tail
        split at tail
        next same =>
          obtain rfl : expected = backend.kind := same
          cases tail with
          | step named last =>
              cases named
              cases last
              exact ⟨rfl, rfl, rfl⟩
        next => nomatch tail

/-- What a session keeps to after it was opened, along every sequence of steps. -/
structure Backend.KeepsAccount (backend : Backend S σ ο) (format : PixelFormat)
    (opening : List (Exchange S ν)) (session : Session) (steps : List (Session.Step S ν))
    (opened : World σ) : Prop where
  serves : format.backend = .ok backend.kind
  askedOnce : (opening.map Exchange.request).countP Request.asksLock = 1
  /-- Every request that a step comes to. -/
  keepsLock : ∀ {trace journal request resume after},
    backend.environment.Reaches (session.performAll steps) opened trace journal
        (.ask request resume) after →
      request.asksLock = false ∧ ∀ lock, request.lock? = some lock → lock = backend.lock
  keepsIdentity : ∀ {trace journal results last after},
    backend.environment.Reaches (session.performAll steps) opened trace journal
        (.done (results, last)) after →
      last.format = format ∧ last.lock = backend.lock ∧
        ∀ result ∈ results, result.Tells backend.kind format
  counts : ∀ {trace journal results last after},
    backend.environment.Reaches (session.performAll steps) opened trace journal
        (.done (results, last)) after →
      let decoded := results.countP Session.Result.isDecoded
      decoded < UInt64.size →
        last.framesSubmitted.toNat = decoded ∧
          (submissionNumbers trace).map UInt64.toNat = List.range' 1 decoded
  /-- Each further step logs a number exactly if it decodes a frame. -/
  numbersNext : ∀ {trace journal results last after},
    backend.environment.Reaches (session.performAll steps) opened trace journal
        (.done (results, last)) after →
      ∀ {step : Session.Step S ν} {further entries result next final},
        backend.environment.Reaches (last.perform step) after further entries
            (.done (result, next)) final →
          submissionNumbers further =
            if result.isDecoded then [last.framesSubmitted + 1] else []

theorem sessions_keep_account {backend : Backend S σ ο} {format : PixelFormat} {session : Session}
    {start opened : World σ} {opening : List (Exchange S ν)} {entries : List (Entry ο ν)}
    (opens : backend.environment.Reaches (Session.open? format) start opening entries
      (.done (.ok session)) opened)
    (steps : List (Session.Step S ν)) :
    backend.KeepsAccount format opening session steps opened := by
  obtain ⟨serves, rfl, asked⟩ := Backend.opens opens
  have accounts : (Session.performAll { format, lock := backend.lock } steps).Obeys
      (booking backend.kind) _ [] := performAll_accounts
  constructor
  · exact serves
  · rw [asked]
    rfl
  · intro trace journal request resume after reached
    have framed : (Session.performAll { format, lock := backend.lock } steps).Obeys
        (framing backend.lock) _ .idle :=
      performAll_framed { format, lock := backend.lock } steps
    have idle : Phase.idle ≠ .opening := by decide
    obtain ⟨obeys, phase⟩ :=
      framed.of_reaches (backend.keepsStep_opened backend.lock) idle reached
    exact Phase.lock_of_allows phase (Program.obeys_ask.mp obeys).1
  · intro trace journal results last after reached
    have account := Program.obeys_done.mp
      (accounts.of_reaches backend.keepsStep_booking trivial reached).1
    exact ⟨account.format, account.lock, account.tells⟩
  · intro trace journal results last after reached decoded bounded
    have account := Program.obeys_done.mp
      (accounts.of_reaches backend.keepsStep_booking trivial reached).1
    have counted : last.framesSubmitted = 0 + UInt64.ofNat decoded := account.counted
    have numbered : _ = [] ++ numbersAfter 0 decoded := account.numbered
    rw [booking_after, List.nil_append, List.nil_append] at numbered
    rw [counted, numbered, UInt64.zero_add]
    exact ⟨UInt64.toNat_ofNat_of_lt' bounded, toNat_numbersAfter_zero bounded⟩
  · intro trace journal results last after _ step further entries result next final reached
    have books : (last.perform step).Obeys (booking backend.kind) _ [] := perform_books
    have book := Program.obeys_done.mp
      (books.of_reaches backend.keepsStep_booking trivial reached).1
    have numbered : _ = [] ++ _ := book.numbered
    rw [booking_after, List.nil_append, List.nil_append] at numbered
    exact numbered

/-- Two frames that are decoded, with a failure and a panic in between. -/
def Session.Step.interrupted : List (Session.Step NamedSurface Empty) :=
  [.submit .plain, .submit { Frame.plain with assembler := .fail (.stillBusy 0) },
    .setRetry (.ofMaximum 2 0), .submit { Frame.plain with assembler := .finish }, .info,
    .submit .plain]

theorem frames_around_panic_are_counted :
    ∃ opening,
      Scripted.context.environment.Reaches (Session.open? .textureArray)
          { driver := {} } opening [] (.done (.ok { format := .textureArray, lock := .mutex 0 }))
          { driver := {} } ∧
        Scripted.context.KeepsAccount .textureArray opening
            { format := .textureArray, lock := .mutex 0 } Session.Step.interrupted
            { driver := {} } ∧
          (Scripted.context.run
              (Session.performAll { format := .textureArray, lock := .mutex 0 }
                Session.Step.interrupted) { driver := {} }).map
              (fun finished => finished.value.2.framesSubmitted) = some 2 := by
  have opens : Scripted.context.environment.run
      (Session.open? .textureArray : Program NamedSurface Empty _) { driver := {} } =
        some
          { value := .ok { format := .textureArray, lock := .mutex 0 }
            world := { driver := {} }
            journal := [] } := rfl
  obtain ⟨opening, reached⟩ := Environment.run_eq_some_iff.mp opens
  exact ⟨opening, reached, sessions_keep_account reached _, by decide +kernel⟩

end HardwareDecode
