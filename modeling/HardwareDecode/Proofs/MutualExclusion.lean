/-
Module: HardwareDecode.Proofs.MutualExclusion
Purpose: Sessions at work at once on devices that share a lock and a count of the frames in flight.
  However their requests are interleaved, one session at most has a frame in flight, and no other
  one calls its driver meanwhile.
Main exports: inFlight, Crew.InStep, Crew.InStep.step, Crew.InStep.of_reaches, Crew.Excludes,
  sessions_exclude_each_other
-/
import HardwareDecode.Backend.TextureArray
import HardwareDecode.Crew.Progress
import HardwareDecode.Driver.Recording
import HardwareDecode.Proofs.LockDiscipline

namespace HardwareDecode

variable {S ν ο : Type}

/-! ### Frames in flight -/

/-- Whether a frame is in flight after another exchange: it is from a begin that succeeds to the
return of an end, failed or not. -/
def Exchange.leavesInFlight (before : Bool) : Exchange S ν → Bool
  | ⟨.call (.beginFrame _), .ok _⟩ => true
  | ⟨.call .endFrame, _⟩ => false
  | _ => before

/-- Whether a frame is in flight after a sequence of exchanges. -/
def inFlight (history : List (Exchange S ν)) : Bool :=
  history.foldl (fun before exchange => exchange.leavesInFlight before) false

theorem Exchange.leavesInFlight_iff {phase : Phase} {before : Bool} {exchange : Exchange S ν}
    (agrees : before = true ↔ phase = .inFrame) :
    exchange.leavesInFlight before = true ↔
      phase.next exchange.request exchange.answer = .inFrame := by
  rcases exchange with ⟨request, answer⟩
  rcases request with (_ | _ | _ | _ | _) | _ | _ | _ | _ | _ | _ | (_ | _ | _) | _ <;>
    cases phase <;> try cases answer
  all_goals simp_all [Exchange.leavesInFlight, Phase.next]

theorem inFlight_iff {lock : DeviceLock} {history : List (Exchange S ν)} :
    inFlight history = true ↔ (framing lock).after .opening history = .inFrame := by
  have agree : ∀ (before : Bool) (phase : Phase), (before = true ↔ phase = .inFrame) →
      (history.foldl (fun before exchange => exchange.leavesInFlight before) before = true ↔
        (framing lock).after phase history = .inFrame) := by
    induction history with
    | nil => exact fun _ _ agrees => agrees
    | cons exchange history inductionHypothesis =>
        intro before phase agrees
        exact inductionHypothesis _ _ (Exchange.leavesInFlight_iff agrees)
  exact agree false .opening (by simp)

/-! ### The count that drivers share -/

/-- The count of the frames in flight, and whether two of them overlapped. -/
structure Tally where
  count : Recording.InFlight
  overlapped : Bool

/-- A begin that succeeds is counted, and overlaps with what was counted before; every end is
counted off. -/
def Tally.next : Tally → (request : Request S ν) → request.Answer → Tally
  | tally, .call (.beginFrame _), .ok _ =>
      { count := tally.count.map (· + 1)
        overlapped := tally.overlapped || tally.count.any (· != 0) }
  | tally, .call .endFrame, _ => { tally with count := tally.count.map (· - 1) }
  | tally, _, _ => tally

theorem Tally.next_of_isQuiet {request : Request S ν} (quiet : request.isQuiet) (tally : Tally)
    (answer : request.Answer) : tally.next request answer = tally := by
  cases request <;> first | rfl | exact False.elim quiet

theorem Tally.next_of_isWork {call : Call S} (work : (.call call : Request S ν).isWork)
    (tally : Tally) (outcome : Outcome call.Answer) :
    tally.next (.call call : Request S ν) outcome = tally := by
  cases call <;> first | rfl | exact False.elim work

theorem Tally.next_of_begin_fails {surface : S} {outcome : Outcome Unit}
    (failed : ∀ value, outcome ≠ .ok value) (tally : Tally) :
    tally.next (.call (.beginFrame surface) : Request S ν) outcome = tally := by
  cases outcome with
  | ok value => exact absurd rfl (failed value)
  | failed _ | panicked _ => rfl

namespace Recording

variable {δ : Type} [DescriptorLayout δ] {observed : DeviceLock} {locks : Locks}
  {driver : InFlight × State}

/-- The tally of a driver. -/
def tally (driver : InFlight × State) : Tally where
  count := driver.1
  overlapped := driver.2.overlapped

theorem tally_getBuffer {code : UInt32} :
    tally (getBuffer observed code locks driver : Reply Bytes _ ο).state = tally driver := by
  simp only [getBuffer]
  split
  · rfl
  · split <;> rfl

theorem tally_releaseBuffer {code : UInt32} :
    tally (releaseBuffer observed code locks driver : Reply Unit _ ο).state = tally driver := by
  simp only [releaseBuffer]
  split <;> rfl

theorem tally_beginFrame {surface : UInt32} :
    let reply : Reply Unit _ ο := beginFrame observed surface locks driver
    tally reply.state =
      (tally driver).next (.call (.beginFrame surface) : Request UInt32 ν) reply.outcome := by
  simp only [beginFrame]
  split
  · rfl
  · split <;> rfl

theorem tally_submitBuffers {batch : List δ} :
    tally (submitBuffers observed batch locks driver : Reply Unit _ ο).state = tally driver := by
  simp only [submitBuffers]
  split
  · rfl
  · rfl
  · split <;> rfl

theorem tally_store {code : UInt32} {contents : Bytes} :
    tally (store code contents driver) = tally driver := by
  simp only [store]
  split <;> rfl

/-- The backend of a session whose driver records. -/
def context (observed lock : DeviceLock) (slice : UInt32 → UInt32) :
    Backend UInt32 (InFlight × State) ο :=
  TextureArray.backend (Recording.driver observed) lock slice

theorem tally_serve {lock : DeviceLock} {slice : UInt32 → UInt32} {request : Request UInt32 ν}
    {world : World (InFlight × State)}
    {served : Served request.Answer (World (InFlight × State)) (Entry ο ν)}
    (answered : (context observed lock slice).serve request world = some served) :
    tally served.world.driver = (tally world.driver).next request served.answer := by
  cases request with
  | call call =>
      cases answered
      cases call with
      | getBuffer kind => exact tally_getBuffer
      | releaseBuffer kind => exact tally_releaseBuffer
      | beginFrame surface => exact tally_beginFrame
      | submitBuffers batch => exact tally_submitBuffers
      | endFrame => rfl
  | store kind contents =>
      cases answered
      exact tally_store
  | acquire lock =>
      obtain ⟨locks, _, rfl⟩ := Option.map_eq_some_iff.mp answered
      rfl
  | abort => cases answered
  | _ =>
      cases answered
      rfl

end Recording

/-! ### One holder at a time -/

variable {id : Nat} {phases : Nat → Phase} {locks : Locks}

/-- The phases after one user came to another one. -/
def Phase.update (phases : Nat → Phase) (number : Nat) (phase : Phase) : Nat → Phase :=
  fun other => if other = number then phase else phases other

/-- Of all users of a mutex only one is in a phase that holds it, and the count says whether that
user has a frame in flight. -/
structure Phase.Exclusive (id : Nat) (phases : Nat → Phase) (locks : Locks)
    (count : Recording.InFlight) : Prop where
  held : ∀ {number}, (phases number).holds = true → locks.isHeld (.mutex id) = true
  alone : ∀ {one other}, (phases one).holds = true → (phases other).holds = true → one = other
  counted : count = some 0 ∧ (∀ number, phases number ≠ .inFrame) ∨
    count = some 1 ∧ ∃ number, phases number = .inFrame

namespace Phase

theorem holds_of_eq_inFrame {phase : Phase} (same : phase = .inFrame) : phase.holds = true := by
  rw [same]
  rfl

@[simp] theorem update_self (number : Nat) (phase : Phase) :
    update phases number phase number = phase := by
  simp [update]

theorem update_of_ne {number other : Nat} (phase : Phase) (distinct : other ≠ number) :
    update phases number phase other = phases other := by
  simp [update, distinct]

variable {number : Nat} {count : Recording.InFlight}

/-- Nobody holds a mutex that is free. -/
theorem Exclusive.holds_of_isFree (exclusive : Exclusive id phases locks count)
    (free : locks.isFree (.mutex id) = true) (other : Nat) : (phases other).holds = false := by
  cases holds : (phases other).holds with
  | false => rfl
  | true =>
      have held := exclusive.held holds
      rw [Locks.isHeld, free] at held
      cases held

/-- Nobody but the holder holds the mutex. -/
theorem Exclusive.holds_of_ne (exclusive : Exclusive id phases locks count)
    (holds : (phases number).holds = true) {other : Nat} (distinct : other ≠ number) :
    (phases other).holds = false := by
  cases also : (phases other).holds with
  | false => rfl
  | true => exact absurd (exclusive.alone also holds) distinct

/-- No frame is in flight if neither the user with a number has one nor anyone else holds the
mutex. -/
theorem not_inFrame_update {phase : Phase} (outside : phase ≠ .inFrame)
    (others : ∀ other, other ≠ number → (phases other).holds = false) (other : Nat) :
    update phases number phase other ≠ .inFrame := by
  by_cases same : other = number
  · rw [same, update_self]
    exact outside
  · rw [update_of_ne phase same]
    intro inFrame
    have holds := others other same
    rw [inFrame] at holds
    cases holds

/-- While nobody else holds the mutex, one user may come to any phase, if the mutex is held as that
phase needs it and the frame in flight is counted. -/
theorem Exclusive.of_others {phase : Phase} {count : Recording.InFlight}
    (others : ∀ other, other ≠ number → (phases other).holds = false)
    (held : phase.holds = true → locks.isHeld (.mutex id) = true)
    (counted : count = if phase = .inFrame then some 1 else some 0) :
    Exclusive id (update phases number phase) locks count := by
  have only : ∀ {other}, (update phases number phase other).holds = true → other = number := by
    intro other holds
    by_cases same : other = number
    · exact same
    · rw [update_of_ne phase same, others other same] at holds
      cases holds
  constructor
  · intro other holds
    obtain rfl := only holds
    rw [update_self] at holds
    exact held holds
  · intro one other first second
    rw [only first, only second]
  · split at counted
    next inFrame => exact .inr ⟨counted, number, by rw [update_self, inFrame]⟩
    next outside => exact .inl ⟨counted, not_inFrame_update outside others⟩

/-- A user may come to a phase that neither holds nor frames otherwise than the one before. -/
theorem Exclusive.of_same {phase : Phase} (exclusive : Exclusive id phases locks count)
    (holds : phase.holds = (phases number).holds)
    (frame : phase = .inFrame ↔ phases number = .inFrame) :
    Exclusive id (update phases number phase) locks count := by
  have sameHolds : ∀ other, (update phases number phase other).holds = (phases other).holds := by
    intro other
    by_cases same : other = number
    · rw [same, update_self, holds]
    · rw [update_of_ne phase same]
  have sameFrame : ∀ other,
      update phases number phase other = .inFrame ↔ phases other = .inFrame := by
    intro other
    by_cases same : other = number
    · rw [same, update_self, frame]
    · rw [update_of_ne phase same]
  constructor
  · intro other held
    exact exclusive.held ((sameHolds other).symm.trans held)
  · intro one other first second
    exact exclusive.alone ((sameHolds one).symm.trans first) ((sameHolds other).symm.trans second)
  · simpa only [ne_eq, sameFrame] using exclusive.counted

/-- The count is that of a user who holds the mutex. -/
theorem Exclusive.count_eq (exclusive : Exclusive id phases locks count)
    (others : ∀ other, other ≠ number → (phases other).holds = false) :
    count = if phases number = .inFrame then some 1 else some 0 := by
  rcases exclusive.counted with ⟨same, nobody⟩ | ⟨same, found, inFrame⟩
  · rw [if_neg (nobody number), same]
  · by_cases equal : found = number
    · rw [← equal, if_pos inFrame, same]
    · have holds := others found equal
      rw [inFrame] at holds
      cases holds

end Phase

/-- A move of one user keeps the mutex exclusive and the frames apart. -/
theorem Phase.Move.exclusive {number : Nat} {after : Phase} {request : Request S ν}
    {answer : request.Answer} {tally : Tally}
    (move : Move (.mutex id) (phases number) request answer after)
    (free : ∀ lock, request = .acquire lock → locks.isFree lock = true)
    (exclusive : Exclusive id phases locks tally.count) (apart : tally.overlapped = false) :
    Exclusive id (update phases number after) (request.onLocks locks)
        (tally.next request answer).count ∧
      (tally.next request answer).overlapped = false := by
  generalize before : phases number = phase at move
  cases move with
  | rests quiet =>
      rw [Request.onLocks_of_isQuiet quiet, Tally.next_of_isQuiet quiet]
      exact ⟨exclusive.of_same (by rw [before]) (by rw [before]), apart⟩
  | opens named => exact ⟨exclusive.of_same (by rw [before]; rfl) (by simp [before]), apart⟩
  | beginFails surface failed =>
      rw [Tally.next_of_begin_fails failed]
      exact ⟨exclusive.of_same (by rw [before]) (by rw [before]), apart⟩
  | works work =>
      rw [Tally.next_of_isWork work]
      exact ⟨exclusive.of_same (by rw [before]) (by rw [before]), apart⟩
  | takes =>
      have others : ∀ other, other ≠ number → (phases other).holds = false :=
        fun other _ => exclusive.holds_of_isFree (free _ rfl) other
      have count := exclusive.count_eq others
      rw [before] at count
      refine ⟨.of_others others (fun _ => ?_) count, apart⟩
      simp [Request.onLocks, Locks.isHeld, Locks.isFree_hold_mutex]
  | begins surface =>
      have holds : (phases number).holds = true := by rw [before]; rfl
      have others : ∀ other, other ≠ number → (phases other).holds = false :=
        fun other => exclusive.holds_of_ne holds
      have count : tally.count = some 0 := by
        rw [exclusive.count_eq others, before]
        rfl
      refine ⟨.of_others others (fun _ => exclusive.held holds) ?_, ?_⟩
      · simp [Tally.next, count]
      · simp [Tally.next, count, apart]
  | ends outcome =>
      have holds : (phases number).holds = true := by rw [before]; rfl
      have others : ∀ other, other ≠ number → (phases other).holds = false :=
        fun other => exclusive.holds_of_ne holds
      have count : tally.count = some 1 := by
        rw [exclusive.count_eq others, before]
        rfl
      refine ⟨.of_others others (fun _ => exclusive.held holds) ?_, apart⟩
      simp [Tally.next, count]
  | frees held closed unwinding =>
      have holds : (phases number).holds = true := by rw [before, held]
      have others : ∀ other, other ≠ number → (phases other).holds = false :=
        fun other => exclusive.holds_of_ne holds
      have count : tally.count = some 0 := by
        rw [exclusive.count_eq others, before, if_neg closed]
      refine ⟨.of_others others (fun holds => ?_) count, apart⟩
      cases holds

/-! ### Crews of sessions -/

/-- A session at work over a recording driver. -/
abbrev Decoder (ν ο : Type) :=
  Worker UInt32 ν Recording.InFlight Recording.State ο
    (Except Refusal (List Session.Result × Session))

/-- Sessions at work, with the locks and the count that they share. -/
abbrev Decoders (ν ο : Type) :=
  Crew UInt32 ν Recording.InFlight Recording.State ο
    (Except Refusal (List Session.Result × Session))

/-- A worker behind a mutex keeps to the order of a session, and its frames overlapped no others. -/
structure Decoder.Keeps (id : Nat) (phase : Phase) (worker : Decoder ν ο) : Prop where
  context : ∃ observed slice, worker.backend = Recording.context observed (.mutex id) slice
  obeys : worker.program.Obeys (framing (.mutex id)) (fun _ _ => True) phase
  apart : worker.driver.overlapped = false

/-- Every worker stands in its phase, and the phases share the mutex. -/
structure Crew.InStep (id : Nat) (crew : Decoders ν ο) (phases : Nat → Phase) : Prop where
  each : ∀ {number} {worker : Decoder ν ο}, crew.workers[number]? = some worker →
    Decoder.Keeps id (phases number) worker
  absent : ∀ {number}, crew.workers[number]? = none → (phases number).holds = false
  exclusive : Phase.Exclusive id phases crew.locks crew.shared

theorem Recording.expects_of_serve {observed : DeviceLock} {slice : UInt32 → UInt32}
    {request : Request UInt32 ν} {world : World (InFlight × State)}
    {served : Served request.Answer (World (InFlight × State)) (Entry ο ν)} {lock : DeviceLock}
    (answered : (context observed lock slice).serve request world = some served) :
    (framing lock).expects request served.answer := by
  rcases request with _ | _ | _ | _ | _ | _ | _ | (_ | _ | _) | _ <;>
    first | trivial | (cases answered; rfl)

/-- Whoever is answered next, the crew stays in step. -/
theorem Crew.InStep.step {crew : Decoders ν ο} (inStep : crew.InStep id phases) {number : Nat}
    {worker : Decoder ν ο} {request : Request UInt32 ν}
    {resume : request.Answer → Program UInt32 ν _}
    {served : Served request.Answer (World (Recording.InFlight × Recording.State)) (Entry ο ν)}
    (found : crew.workers[number]? = some worker) (asks : worker.program = .ask request resume)
    (answered : worker.backend.serve request (crew.world worker) = some served) :
    (crew.update number worker (resume served.answer) served.world served.journal).InStep id
      (Phase.update phases number ((phases number).next request served.answer)) := by
  obtain ⟨⟨observed, slice, context⟩, obeys, apart⟩ := inStep.each found
  have bound := (List.getElem?_eq_some_iff.mp found).1
  rw [asks] at obeys
  obtain ⟨allowed, later⟩ := Program.obeys_ask.mp obeys
  have locks := Backend.serve_locks answered
  have free := Backend.isFree_of_serve answered
  rw [context] at answered
  have tally := Recording.tally_serve answered
  have shared : served.world.driver.1 = _ := congrArg Tally.count tally
  have overlapped : served.world.driver.2.overlapped = _ := congrArg Tally.overlapped tally
  have before : Phase.Exclusive id phases crew.locks
      (Recording.tally (crew.world worker).driver).count := inStep.exclusive
  have move := Phase.move_of_allowed allowed served.answer
  obtain ⟨exclusive, still⟩ := move.exclusive free before apart
  rw [← shared, ← locks] at exclusive
  rw [← overlapped] at still
  refine ⟨?_, ?_, exclusive⟩
  · intro other another member
    by_cases same : other = number
    · subst same
      rw [Crew.update, List.getElem?_set_self bound] at member
      cases member
      rw [Phase.update_self]
      exact ⟨⟨observed, slice, context⟩, later _ (Recording.expects_of_serve answered), still⟩
    · rw [Crew.update, List.getElem?_set_ne (Ne.symm same)] at member
      rw [Phase.update_of_ne _ same]
      exact inStep.each member
  · intro other missing
    have distinct : other ≠ number := by
      intro same
      rw [same, Crew.update, List.getElem?_set_self bound] at missing
      cases missing
    rw [Crew.update, List.getElem?_set_ne (Ne.symm distinct)] at missing
    rw [Phase.update_of_ne _ distinct]
    exact inStep.absent missing

/-- However the requests are interleaved, the phases are those that the workers' own exchanges have
brought them to. -/
theorem Crew.InStep.of_reaches {crew last : Decoders ν ο} {trace : List (Nat × Exchange UInt32 ν)}
    (reached : crew.Reaches trace last) (inStep : crew.InStep id phases) :
    last.InStep id fun number =>
      (framing (.mutex id)).after (phases number) (historyOf number trace) := by
  induction reached generalizing phases with
  | here crew => exact inStep
  | @step crew last number worker request resume served trace found asks answered _
      inductionHypothesis =>
      have later := inductionHypothesis (inStep.step found asks answered)
      have same : (fun other => (framing (.mutex id)).after
            (Phase.update phases number ((phases number).next request served.answer) other)
            (historyOf other trace)) =
          fun other => (framing (.mutex id)).after (phases other)
            (historyOf other ((number, ⟨request, served.answer⟩) :: trace)) := by
        funext other
        by_cases equal : number = other
        · subst equal
          rw [Phase.update_self, historyOf_cons_self]
          rfl
        · rw [Phase.update_of_ne _ (Ne.symm equal), historyOf_cons_of_ne equal]
      rw [← same]
      exact later

/-- A crew that starts: every worker opens a session on a context of its own, behind the same mutex,
and no frame is in flight. -/
structure Crew.Starts (id : Nat) (crew : Decoders ν ο) : Prop where
  counted : crew.shared = some 0
  contexts : ∀ worker ∈ crew.workers, ∃ observed slice,
    worker.backend = Recording.context observed (.mutex id) slice
  lives : ∀ worker ∈ crew.workers, ∃ format policy steps,
    worker.program = Session.life format policy steps
  apart : ∀ worker ∈ crew.workers, worker.driver.overlapped = false

theorem Crew.Starts.inStep {crew : Decoders ν ο} (starts : crew.Starts id) :
    crew.InStep id fun _ => .opening := by
  refine ⟨?_, fun _ => rfl, nofun, nofun, .inl ⟨starts.counted, nofun⟩⟩
  intro number worker found
  have member := List.mem_of_getElem? found
  obtain ⟨format, policy, steps, lives⟩ := starts.lives worker member
  refine ⟨starts.contexts worker member, ?_, starts.apart worker member⟩
  rw [lives]
  exact life_framed.weaken fun _ _ _ => trivial

/-- Along a trace, one worker at most has a frame in flight, the count says whether one has, nobody
else calls a driver meanwhile, and no driver saw two frames overlap. -/
structure Crew.Excludes (trace : List (Nat × Exchange UInt32 ν)) (last : Decoders ν ο) :
    Prop where
  alone : ∀ {one other}, inFlight (historyOf one trace) = true →
    inFlight (historyOf other trace) = true → one = other
  counted : last.shared = some (UInt64.ofNat
    ((List.range last.workers.length).countP fun number => inFlight (historyOf number trace)))
  undisturbed : ∀ {front back caller call outcome},
    trace = front ++ (caller, ⟨.call call, outcome⟩) :: back →
      ∀ {holder}, inFlight (historyOf holder front) = true → caller = holder
  apart : ∀ worker ∈ last.workers, worker.driver.overlapped = false

/-- Of the workers of a crew, one is in flight or none is, as the count says. -/
theorem Crew.InStep.shared_eq {crew : Decoders ν ο} (inStep : crew.InStep id phases)
    {flies : Nat → Bool} (agree : ∀ number, flies number = true ↔ phases number = .inFrame) :
    crew.shared = some (UInt64.ofNat ((List.range crew.workers.length).countP flies)) := by
  rcases inStep.exclusive.counted with ⟨shared, nobody⟩ | ⟨shared, holder, inFrame⟩
  · have none : (List.range crew.workers.length).countP flies = 0 := by
      apply List.countP_eq_zero.mpr
      intro number _ found
      exact nobody number ((agree number).mp found)
    rw [shared, none]
    rfl
  · have holds := Phase.holds_of_eq_inFrame inFrame
    have bound : holder < crew.workers.length := by
      apply Nat.lt_of_not_le
      intro beyond
      have idle := inStep.absent (List.getElem?_eq_none beyond)
      rw [holds] at idle
      cases idle
    have same : ∀ number ∈ List.range crew.workers.length,
        flies number = true ↔ (number == holder) = true := by
      intro number _
      rw [agree, beq_iff_eq]
      constructor
      · intro also
        exact inStep.exclusive.alone (Phase.holds_of_eq_inFrame also) holds
      · intro equal
        rw [equal, inFrame]
    have one : (List.range crew.workers.length).countP flies = 1 := by
      rw [List.countP_congr same]
      exact List.count_range.trans (if_pos bound)
    rw [shared, one]
    rfl

/-- Sessions that share a mutex and a count exclude each other, however their requests are
interleaved. -/
theorem sessions_exclude_each_other {crew last : Decoders ν ο} (starts : crew.Starts id)
    {trace : List (Nat × Exchange UInt32 ν)} (reached : crew.Reaches trace last) :
    Crew.Excludes trace last := by
  have inStep := starts.inStep.of_reaches reached
  have holds : ∀ {history : List (Exchange UInt32 ν)}, inFlight history = true →
      ((framing (.mutex id)).after .opening history).holds = true :=
    fun flies => Phase.holds_of_eq_inFrame (inFlight_iff.mp flies)
  constructor
  · intro one other first second
    exact inStep.exclusive.alone (holds first) (holds second)
  · exact inStep.shared_eq fun number => inFlight_iff
  · rintro front back caller call outcome rfl holder flies
    obtain ⟨middle, before, rest⟩ := reached.split
    have between := starts.inStep.of_reaches before
    cases rest with
    | step found asks answered _ =>
        have obeys := (between.each found).obeys
        rw [asks] at obeys
        have calls := Phase.holds_of_allows_call (Program.obeys_ask.mp obeys).1
        exact between.exclusive.alone calls (holds flies)
  · intro worker member
    obtain ⟨number, found⟩ := List.mem_iff_getElem?.mp member
    exact (inStep.each found).apart

/-- A session with one frame to decode, whose device is busy at first for some begins. -/
def Decoder.single (busyBegins : UInt32) : Decoder Empty Empty where
  backend := Recording.context (.mutex 0) (.mutex 0) fun surface => surface
  program :=
    Session.life .textureArray .standard
      [.submit { surface := 0, pictureParameters := [1], assembler := .panic .outOfRange }]
  driver := { script := { busyBegins } }

/-- Any number of such sessions make a crew that starts. -/
theorem Decoder.starts_singles (counts : List UInt32) :
    Crew.Starts 0 { shared := some 0, workers := counts.map Decoder.single } := by
  have single : ∀ worker ∈ counts.map Decoder.single, ∃ count, worker = Decoder.single count := by
    intro worker member
    obtain ⟨count, _, rfl⟩ := List.mem_map.mp member
    exact ⟨count, rfl⟩
  refine ⟨rfl, ?_, ?_, ?_⟩ <;> intro worker member <;> obtain ⟨count, rfl⟩ := single worker member
  · exact ⟨_, _, rfl⟩
  · exact ⟨_, _, _, rfl⟩
  · rfl

/-- While one session waits for its device, another one begins a frame. -/
theorem waiting_session_is_excluded :
    ∃ last trace,
      Crew.Starts 0 { shared := some 0, workers := [Decoder.single 1, Decoder.single 0] } ∧
        Crew.Reaches { shared := some 0, workers := [Decoder.single 1, Decoder.single 0] } trace
            last ∧
          trace.map Prod.fst = [0, 0, 0, 0, 0, 0, 1, 1, 1, 1, 0, 1] ∧
            Crew.Excludes trace last := by
  have starts :
      Crew.Starts 0 { shared := some 0, workers := [Decoder.single 1, Decoder.single 0] } :=
    Decoder.starts_singles [1, 0]
  have follows : (Crew.follow
      ({ shared := some 0, workers := [Decoder.single 1, Decoder.single 0] } :
        Decoders Empty Empty) [0, 0, 0, 0, 0, 0, 1, 1, 1, 1, 0, 1]).isSome = true := by
    decide +kernel
  obtain ⟨last, followed⟩ := Option.isSome_iff_exists.mp follows
  obtain ⟨trace, reached, schedule⟩ := Crew.follow_eq_some_iff.mp followed
  exact ⟨last, trace, starts, reached, schedule, sessions_exclude_each_other starts reached⟩

end HardwareDecode
