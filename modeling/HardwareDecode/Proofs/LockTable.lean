/-
Module: HardwareDecode.Proofs.LockTable
Purpose: Who keeps whom out of the locks of a table.  Handles that go back to one mutex share one
  guard, however many clones lie in between; handles that go back to different originals have
  nothing to do with each other, and poison is never seen.
Main exports: LockEntry.Original, LockTable.Holding, LockTable.Consistent, LockTable.Likewise,
  LockTable.Excludes, LockTable.ExcludesByOriginal, guards_exclude_by_original
-/
import Mathlib.Data.List.Induction
import HardwareDecode.Lock.Table

namespace HardwareDecode

/-! ### Originals -/

namespace LockEntry

variable {entries : List LockEntry} {handles : List DeviceLock} {entry original : Nat}

/-- Behind all clones, an entry goes back to one that was made as no clone. -/
inductive Original (entries : List LockEntry) : Nat → Nat → Prop where
  | fresh {entry : Nat} (made : entries[entry]? = some .fresh) : Original entries entry entry
  | absent {entry : Nat} (made : entries[entry]? = some .absent) : Original entries entry entry
  | clone {entry earlier original : Nat} (made : entries[entry]? = some (.clone earlier))
      (rest : Original entries earlier original) : Original entries entry original

/-- The lock that an original is made for. -/
def lockOf (entries : List LockEntry) (original : Nat) : DeviceLock :=
  if entries[original]? = some .absent then .absent else .mutex original

theorem resolveAll_concat (entries : List LockEntry) (last : LockEntry) :
    resolveAll (entries ++ [last]) =
      (resolveAll entries).bind fun earlier => (last.resolve earlier).map (earlier ++ [·]) := by
  simp [resolveAll, List.foldlM_append]

theorem length_resolveAll (resolved : resolveAll entries = some handles) :
    handles.length = entries.length := by
  induction entries using List.reverseRecOn generalizing handles with
  | nil =>
      cases resolved
      rfl
  | append_singleton entries last inductionHypothesis =>
      rw [resolveAll_concat] at resolved
      obtain ⟨earlier, first, rest⟩ := Option.bind_eq_some_iff.mp resolved
      obtain ⟨lock, _, rfl⟩ := Option.map_eq_some_iff.mp rest
      simp [inductionHypothesis first]

/-- Each entry is resolved behind the handles before it. -/
theorem resolve_take (resolved : resolveAll entries = some handles) {made : LockEntry}
    (found : entries[entry]? = some made) :
    ∃ lock, made.resolve (handles.take entry) = some lock ∧ handles[entry]? = some lock := by
  induction entries using List.reverseRecOn generalizing handles with
  | nil => simp at found
  | append_singleton entries last inductionHypothesis =>
      rw [resolveAll_concat] at resolved
      obtain ⟨earlier, first, rest⟩ := Option.bind_eq_some_iff.mp resolved
      obtain ⟨lock, ends, rfl⟩ := Option.map_eq_some_iff.mp rest
      have length := length_resolveAll first
      rcases Nat.lt_trichotomy entry entries.length with before | rfl | behind
      · rw [List.getElem?_append_left before] at found
        obtain ⟨named, resolves, same⟩ := inductionHypothesis first found
        have inside : entry < earlier.length := length ▸ before
        rw [List.take_append_of_le_length (Nat.le_of_lt inside), List.getElem?_append_left inside]
        exact ⟨named, resolves, same⟩
      · rw [List.getElem?_concat_length] at found
        cases found
        rw [← length, List.take_left, List.getElem?_concat_length]
        exact ⟨lock, ends, rfl⟩
      · rw [List.getElem?_eq_none (by rw [List.length_append]; exact behind)] at found
        cases found

/-- A handle is the lock of the original that its entry goes back to. -/
theorem Original.handle (traced : Original entries entry original)
    (resolved : resolveAll entries = some handles) :
    handles[entry]? = some (lockOf entries original) := by
  induction traced with
  | @fresh entry made =>
      obtain ⟨lock, resolves, same⟩ := resolve_take resolved made
      have inside : entry < handles.length := (List.getElem?_eq_some_iff.mp same).1
      cases resolves
      rw [same, lockOf, made, List.length_take, Nat.min_eq_left (Nat.le_of_lt inside)]
      rfl
  | absent made =>
      obtain ⟨lock, resolves, same⟩ := resolve_take resolved made
      cases resolves
      rw [same, lockOf, made]
      rfl
  | @clone entry earlier original made _ inductionHypothesis =>
      obtain ⟨lock, resolves, same⟩ := resolve_take resolved made
      have found : (handles.take entry)[earlier]? = some lock := resolves
      rw [List.getElem?_take] at found
      split at found
      · rw [same, ← found, inductionHypothesis]
      · cases found

/-- Every handle goes back to an original. -/
theorem exists_original (resolved : resolveAll entries = some handles)
    (inside : entry < handles.length) : ∃ original, Original entries entry original := by
  induction entry using Nat.strongRecOn with
  | ind entry inductionHypothesis =>
      have listed : entry < entries.length := length_resolveAll resolved ▸ inside
      have found := List.getElem?_eq_getElem listed
      obtain ⟨lock, resolves, _⟩ := resolve_take resolved found
      cases made : entries[entry] with
      | fresh => exact ⟨entry, .fresh (found.trans (congrArg some made))⟩
      | absent => exact ⟨entry, .absent (found.trans (congrArg some made))⟩
      | clone earlier =>
          rw [made] at found resolves
          have taken : (handles.take entry)[earlier]? = some lock := resolves
          have before := (List.getElem?_eq_some_iff.mp taken).1
          rw [List.length_take] at before
          obtain ⟨original, rest⟩ := inductionHypothesis earlier (by omega) (by omega)
          exact ⟨original, .clone found rest⟩

theorem Original.made (traced : Original entries entry original) :
    entries[original]? = some .fresh ∨ entries[original]? = some .absent := by
  induction traced with
  | fresh made => exact .inl made
  | absent made => exact .inr made
  | clone _ _ inductionHypothesis => exact inductionHypothesis

theorem Original.unique {other : Nat} (traced : Original entries entry original)
    (also : Original entries entry other) : original = other := by
  induction traced with
  | fresh made => cases also <;> simp_all
  | absent made => cases also <;> simp_all
  | clone made _ inductionHypothesis =>
      cases also with
      | fresh found => simp [made] at found
      | absent found => simp [made] at found
      | clone found rest =>
          rw [made] at found
          cases found
          exact inductionHypothesis rest

/-- The handles that hold a mutex are those that go back to it. -/
theorem getD_eq_mutex (resolved : resolveAll entries = some handles) :
    handles.getD entry .absent = .mutex original ↔
      Original entries entry original ∧ entries[original]? = some .fresh := by
  constructor
  · intro same
    have inside : entry < handles.length := by
      by_contra outside
      rw [List.getD_eq_getElem?_getD, List.getElem?_eq_none (Nat.le_of_not_lt outside)] at same
      cases same
    obtain ⟨traces, traced⟩ := exists_original resolved inside
    rw [List.getD_eq_getElem?_getD, traced.handle resolved, Option.getD_some, lockOf] at same
    split at same
    · cases same
    · cases same
      exact ⟨traced, traced.made.resolve_right ‹_›⟩
  · rintro ⟨traced, fresh⟩
    rw [List.getD_eq_getElem?_getD, traced.handle resolved, lockOf, fresh]
    rfl

end LockEntry

/-! ### Held mutexes -/

namespace Locks

theorem mem_held_hold (locks : Locks) (lock : DeviceLock) (id : Nat) :
    id ∈ (locks.hold lock).held ↔ lock = .mutex id ∨ id ∈ locks.held := by
  cases lock with
  | absent => simp [hold]
  | mutex taken => simp [hold, eq_comm]

theorem mem_held_free (locks : Locks) (lock : DeviceLock) (unwinding : Bool) (id : Nat) :
    id ∈ (locks.free lock unwinding).held ↔ id ∈ locks.held ∧ lock ≠ .mutex id := by
  cases lock with
  | absent => simp [free]
  | mutex freed =>
      simp only [free, List.mem_filter, decide_eq_true_eq, ne_eq, DeviceLock.mutex.injEq,
        eq_comm (a := freed)]

end Locks

/-! ### Lists with at most one place of a kind -/

/-- No two places of a list hold what has the property. -/
def AtMostOnce {α : Type} (property : α → Prop) (list : List α) : Prop :=
  ∀ (first second : Nat) (one other : α), list[first]? = some one → list[second]? = some other →
    property one → property other → first = second

namespace AtMostOnce

variable {α : Type} {property : α → Prop} {list : List α} {last : α}

theorem concat (once : AtMostOnce property list)
    (fresh : property last → ∀ one ∈ list, ¬ property one) :
    AtMostOnce property (list ++ [last]) := by
  have place {number : Nat} {given : α} (found : (list ++ [last])[number]? = some given) :
      list[number]? = some given ∨ number = list.length ∧ given = last := by
    rw [List.getElem?_append] at found
    split at found
    · exact .inl found
    · rw [List.getElem?_singleton] at found
      split at found
      · cases found
        exact .inr ⟨by omega, rfl⟩
      · cases found
  intro first second one other found also has too
  rcases place found with old | ⟨end', rfl⟩ <;> rcases place also with old' | ⟨end'', rfl⟩
  · exact once first second one other old old' has too
  · exact absurd has (fresh too one (List.mem_of_getElem? old))
  · exact absurd too (fresh has other (List.mem_of_getElem? old'))
  · rw [end', end'']

theorem getElem?_of_set (property : α → Prop) {place number : Nat} {given : α}
    (found : (list.set place last)[number]? = some given) (has : property given)
    (without : ¬ property last) :
    number ≠ place ∧ list[number]? = some given := by
  rw [List.getElem?_set] at found
  split at found
  · split at found
    · cases found
      exact absurd has without
    · cases found
  · exact ⟨fun same => ‹¬ place = number› same.symm, found⟩

theorem set (once : AtMostOnce property list) (without : ¬ property last) (place : Nat) :
    AtMostOnce property (list.set place last) := by
  intro first second one other found also has too
  exact once first second one other (getElem?_of_set property found has without).2
    (getElem?_of_set property also too without).2 has too

end AtMostOnce

/-! ### The guards that the answers tell of -/

namespace LockTable

/-- What is known of a guard from outside: the entry it was taken on, and whether it still lives. -/
structure Holding where
  entry : Nat
  live : Bool := true
deriving DecidableEq, Repr

/-- Whether a guard keeps others out of a mutex. -/
def Holding.Holds (handles : List DeviceLock) (id : Nat) (holding : Holding) : Prop :=
  holding.live = true ∧ handles.getD holding.entry .absent = .mutex id

/-- The guards after a step, read off its answer. -/
def Holding.next (holdings : List Holding) : Step → Answer → List Holding
  | .lock entry, .acquired => holdings ++ [{ entry }]
  | .tryLock entry, .acquired => holdings ++ [{ entry }]
  | .drop guard, .dropped =>
      match holdings[guard]? with
      | some holding => holdings.set guard { holding with live := false }
      | none => holdings
  | _, _ => holdings

/-- The guards after some steps, read off their answers. -/
def Holding.after (holdings : List Holding) :
    List Step → List (Answer × List Bool) → List Holding
  | step :: steps, (answer, _) :: answers =>
      Holding.after (Holding.next holdings step answer) steps answers
  | _, _ => holdings

/-- The guards that some steps leave of a table none was taken of. -/
def holdings (table : LockTable) (steps : List Step) : List Holding :=
  Holding.after [] steps (table.performAll steps).1

/-- The table that some steps leave. -/
def after (table : LockTable) (steps : List Step) : LockTable := (table.performAll steps).2

/-- Whether an entry's lock is given to one who asks for it. -/
def Gives (table : LockTable) (entry : Nat) : Prop := (table.perform (.tryLock entry)).1 = .acquired

/-- A table agrees with the guards that are known of: these are its guards, a mutex is held exactly
while one of them lives, and never by two. -/
structure Consistent (holdings : List Holding) (table : LockTable) : Prop where
  guards : table.guards = holdings.map fun holding =>
    { lock := table.handle holding.entry, live := holding.live }
  held : ∀ id, id ∈ table.locks.held ↔ ∃ holding ∈ holdings, holding.Holds table.handles id
  alone : ∀ id, AtMostOnce (Holding.Holds table.handles id) holdings

variable {entries : List LockEntry} {handles : List DeviceLock} {table : LockTable}
  {holdings : List Holding} {entry original : Nat}

theorem gives_iff : table.Gives entry ↔ table.locks.isFree (table.handle entry) = true := by
  rw [Gives, perform, acquire, Locks.take_eq]
  cases table.locks.isFree (table.handle entry) <;> simp

/-- Asking for a lock either adds a guard on it or changes nothing. -/
theorem acquire_cases (table : LockTable) (entry : Nat) (refusal : Answer) :
    (table.Gives entry ∧ table.acquire entry refusal =
      (.acquired, { table with
        guards := table.guards ++ [{ lock := table.handle entry }]
        locks := table.locks.hold (table.handle entry) })) ∨
    (¬ table.Gives entry ∧ table.acquire entry refusal = (refusal, table)) := by
  rw [gives_iff, acquire, Locks.take_eq]
  cases table.locks.isFree (table.handle entry) <;> simp

/-- Poisoning a lock changes no more than its poison. -/
theorem perform_poison (table : LockTable) (entry : Nat) :
    ∃ poisoned, (table.perform (.poison entry)).2 =
      { table with locks := { table.locks with poisoned } } := by
  rw [perform, Locks.poison, Locks.take_eq]
  cases lock : table.handle entry with
  | absent => exact ⟨table.locks.poisoned, rfl⟩
  | mutex id =>
      rw [Locks.isFree_mutex]
      by_cases taken : id ∈ table.locks.held
      · exact ⟨table.locks.poisoned, by simp [taken]⟩
      · have kept : table.locks.held.filter (fun other => decide (other ≠ id)) = table.locks.held :=
          List.filter_eq_self.mpr fun other member =>
            decide_eq_true fun same => taken (Eq.mp (congrArg (· ∈ table.locks.held) same) member)
        refine ⟨id :: table.locks.poisoned, ?_⟩
        simpa [taken, Locks.hold, Locks.free] using kept

/-- A guard that lives is dropped, and no other. -/
theorem perform_drop (table : LockTable) (guard : Nat) :
    (∃ lock, table.guards[guard]? = some { lock } ∧ table.perform (.drop guard) =
      (.dropped, { table with
        guards := table.guards.set guard { lock, live := false }
        locks := table.locks.free lock false })) ∨
    ((∀ lock, table.guards[guard]? ≠ some { lock }) ∧
      table.perform (.drop guard) = (.noGuard, table)) := by
  rw [perform]
  cases found : table.guards[guard]? with
  | none => exact .inr ⟨nofun, rfl⟩
  | some given =>
      cases given with
      | mk lock live =>
          cases live with
          | true => exact .inl ⟨lock, rfl, rfl⟩
          | false => exact .inr ⟨nofun, rfl⟩

theorem handles_perform (table : LockTable) (step : Step) :
    (table.perform step).2.handles = table.handles := by
  cases step with
  | lock entry => rcases acquire_cases table entry .wouldBlock with ⟨_, same⟩ | ⟨_, same⟩ <;>
      rw [perform, same]
  | tryLock entry => rcases acquire_cases table entry .blocked with ⟨_, same⟩ | ⟨_, same⟩ <;>
      rw [perform, same]
  | poison entry =>
      obtain ⟨poisoned, same⟩ := perform_poison table entry
      rw [same]
  | drop guard => rcases perform_drop table guard with ⟨_, _, same⟩ | ⟨_, same⟩ <;> rw [same]
  | isAbsent entry => rfl

theorem handles_after (table : LockTable) (steps : List Step) :
    (table.after steps).handles = table.handles := by
  induction steps generalizing table with
  | nil => rfl
  | cons step steps inductionHypothesis =>
      exact (inductionHypothesis (table.perform step).2).trans (handles_perform table step)

/-! ### One step, and a run -/

namespace Consistent

/-- Nothing was taken of a table, and nothing is held. -/
theorem initial (handles : List DeviceLock) : Consistent [] { handles } where
  guards := rfl
  held id := by simp
  alone id first second one other found := by simp at found

theorem gives_iff (consistent : Consistent holdings table) :
    table.Gives entry ↔ ∀ id, table.handle entry = .mutex id →
      ∀ holding ∈ holdings, ¬ holding.Holds table.handles id := by
  rw [LockTable.gives_iff]
  cases lock : table.handle entry with
  | absent => simp
  | mutex id =>
      rw [Locks.isFree_mutex, Bool.not_eq_true', decide_eq_false_iff_not, consistent.held]
      simp only [DeviceLock.mutex.injEq, forall_eq', not_exists, not_and]

/-- Only the poison differs. -/
theorem poisoned (consistent : Consistent holdings table) (poisoned : List Nat) :
    Consistent holdings { table with locks := { table.locks with poisoned } } where
  guards := consistent.guards
  held := consistent.held
  alone := consistent.alone

/-- A lock that is given gets a guard. -/
theorem acquired (consistent : Consistent holdings table) (gives : table.Gives entry) :
    Consistent (holdings ++ [{ entry := entry }]) { table with
      guards := table.guards ++ [{ lock := table.handle entry }]
      locks := table.locks.hold (table.handle entry) } where
  guards := by
    rw [consistent.guards, List.map_append]
    rfl
  held id := by
    have holds : Holding.Holds table.handles id { entry := entry } ↔
        table.handle entry = .mutex id := by simp [Holding.Holds, handle]
    simp only [Locks.mem_held_hold, consistent.held, List.mem_append, List.mem_singleton,
      or_and_right, exists_or, exists_eq_left, holds, or_comm]
  alone id := (consistent.alone id).concat fun holds => consistent.gives_iff.mp gives id holds.2

/-- A guard that is dropped keeps nobody out. -/
theorem dropped (consistent : Consistent holdings table) {guard : Nat} {holding : Holding}
    (found : holdings[guard]? = some holding) (lives : holding.live = true) :
    Consistent (holdings.set guard { holding with live := false }) { table with
      guards := table.guards.set guard { lock := table.handle holding.entry, live := false }
      locks := table.locks.free (table.handle holding.entry) false } where
  guards := by
    rw [consistent.guards, List.map_set]
    rfl
  held id := by
    rw [Locks.mem_held_free, consistent.held]
    constructor
    · intro ⟨⟨other, member, holds⟩, apart⟩
      obtain ⟨place, at'⟩ := List.mem_iff_getElem?.mp member
      have differs : guard ≠ place := by
        intro same
        rw [← same, found] at at'
        cases at'
        exact apart holds.2
      exact ⟨other, List.mem_of_getElem? ((List.getElem?_set_ne differs).trans at'), holds⟩
    · intro ⟨other, member, holds⟩
      obtain ⟨place, at'⟩ := List.mem_iff_getElem?.mp member
      obtain ⟨differs, old⟩ := AtMostOnce.getElem?_of_set (Holding.Holds _ id) at' holds
        fun dead => by cases dead.1
      refine ⟨⟨other, List.mem_of_getElem? old, holds⟩, fun same => differs ?_⟩
      exact consistent.alone id place guard other holding old found holds ⟨lives, same⟩
  alone id := (consistent.alone id).set (fun holds => by cases holds.1) guard

theorem drops (consistent : Consistent holdings table) {guard : Nat} :
    (table.perform (.drop guard)).1 = .dropped ↔
      ∃ entry, holdings[guard]? = some { entry := entry } := by
  have guards : table.guards[guard]? = (holdings[guard]?).map fun holding =>
      { lock := table.handle holding.entry, live := holding.live } := by
    rw [consistent.guards, List.getElem?_map]
  rcases perform_drop table guard with ⟨lock, found, same⟩ | ⟨without, same⟩
  · rw [guards] at found
    obtain ⟨⟨entry, live⟩, known, shape⟩ := Option.map_eq_some_iff.mp found
    cases show live = true from congrArg Guard.live shape
    rw [same]
    exact iff_of_true rfl ⟨entry, known⟩
  · rw [same]
    refine iff_of_false nofun ?_
    intro ⟨entry, known⟩
    rw [known] at guards
    exact without (table.handle entry) guards

/-- A step keeps a table and the guards that are known of in agreement. -/
theorem step (consistent : Consistent holdings table) (step : Step) :
    Consistent (Holding.next holdings step (table.perform step).1) (table.perform step).2 := by
  cases step with
  | lock entry =>
      rcases acquire_cases table entry .wouldBlock with ⟨gives, same⟩ | ⟨_, same⟩
      · rw [perform, same]
        exact consistent.acquired gives
      · rw [perform, same]
        exact consistent
  | tryLock entry =>
      rcases acquire_cases table entry .blocked with ⟨gives, same⟩ | ⟨_, same⟩
      · rw [perform, same]
        exact consistent.acquired gives
      · rw [perform, same]
        exact consistent
  | poison entry =>
      obtain ⟨poisoned, same⟩ := perform_poison table entry
      rw [same]
      exact consistent.poisoned poisoned
  | drop guard =>
      rcases perform_drop table guard with ⟨lock, found, same⟩ | ⟨_, same⟩
      · rw [consistent.guards, List.getElem?_map] at found
        obtain ⟨holding, known, shape⟩ := Option.map_eq_some_iff.mp found
        have lives : holding.live = true := congrArg Guard.live shape
        have locks : table.handle holding.entry = lock := congrArg Guard.lock shape
        rw [same, ← locks]
        simp only [Holding.next, known]
        exact consistent.dropped known lives
      · rw [same]
        exact consistent
  | isAbsent entry => exact consistent

/-- So does a run. -/
theorem run (consistent : Consistent holdings table) (steps : List Step) :
    Consistent (Holding.after holdings steps (table.performAll steps).1) (table.after steps) := by
  induction steps generalizing holdings table with
  | nil => exact consistent
  | cons step steps inductionHypothesis => exact inductionHypothesis (consistent.step step)

end Consistent

/-! ### Poison is not seen -/

/-- Two tables that differ in nothing but their poison. -/
structure Likewise (table other : LockTable) : Prop where
  handles : table.handles = other.handles
  guards : table.guards = other.guards
  held : table.locks.held = other.locks.held

namespace Likewise

variable {other : LockTable}

theorem isFree (likewise : table.Likewise other) (lock : DeviceLock) :
    table.locks.isFree lock = other.locks.isFree lock := by
  cases lock with
  | absent => rfl
  | mutex id => rw [Locks.isFree_mutex, Locks.isFree_mutex, likewise.held]

theorem free (likewise : table.Likewise other) : table.free = other.free := by
  rw [LockTable.free, LockTable.free, likewise.handles, funext likewise.isFree]

theorem handle (likewise : table.Likewise other) (entry : Nat) :
    table.handle entry = other.handle entry :=
  congrArg (·.getD entry .absent) likewise.handles

theorem gives_iff (likewise : table.Likewise other) : table.Gives entry ↔ other.Gives entry := by
  rw [LockTable.gives_iff, LockTable.gives_iff, likewise.handle, likewise.isFree]

/-- Poisoning one of them keeps them alike. -/
theorem poison (likewise : table.Likewise other) (entry : Nat) :
    (table.perform (.poison entry)).2.Likewise other := by
  obtain ⟨poisoned, same⟩ := perform_poison table entry
  rw [same]
  exact ⟨likewise.handles, likewise.guards, likewise.held⟩

theorem symm (likewise : table.Likewise other) : other.Likewise table :=
  ⟨likewise.handles.symm, likewise.guards.symm, likewise.held.symm⟩

theorem acquire (likewise : table.Likewise other) (entry : Nat) (refusal : Answer) :
    (table.acquire entry refusal).1 = (other.acquire entry refusal).1 ∧
      (table.acquire entry refusal).2.Likewise (other.acquire entry refusal).2 := by
  rcases acquire_cases table entry refusal with ⟨gives, same⟩ | ⟨refuses, same⟩ <;>
    rcases acquire_cases other entry refusal with ⟨gives', same'⟩ | ⟨refuses', same'⟩
  · rw [same, same', likewise.handle]
    refine ⟨rfl, likewise.handles, ?_, ?_⟩
    · rw [likewise.guards]
    · cases other.handle entry with
      | absent => exact likewise.held
      | mutex id => exact congrArg (id :: ·) likewise.held
  · exact absurd (likewise.gives_iff.mp gives) refuses'
  · exact absurd (likewise.gives_iff.mpr gives') refuses
  · rw [same, same']
    exact ⟨rfl, likewise⟩

/-- The same step is answered alike by both. -/
theorem perform (likewise : table.Likewise other) (step : Step) :
    (table.perform step).1 = (other.perform step).1 ∧
      (table.perform step).2.Likewise (other.perform step).2 := by
  cases step with
  | lock entry => exact likewise.acquire entry .wouldBlock
  | tryLock entry => exact likewise.acquire entry .blocked
  | poison entry =>
      constructor
      · rw [LockTable.perform, LockTable.perform, Locks.poison, Locks.poison, Locks.take_eq,
          Locks.take_eq, likewise.handle, likewise.isFree]
        cases other.locks.isFree (other.handle entry) <;> rfl
      · exact ((likewise.poison entry).symm.poison entry).symm
  | drop guard =>
      rcases perform_drop table guard with ⟨lock, found, same⟩ | ⟨without, same⟩ <;>
        rcases perform_drop other guard with ⟨lock', found', same'⟩ | ⟨without', same'⟩
      · rw [likewise.guards, found'] at found
        cases found
        rw [same, same']
        refine ⟨rfl, likewise.handles, ?_, ?_⟩
        · rw [likewise.guards]
        · cases lock with
          | absent => exact likewise.held
          | mutex id => exact congrArg (List.filter _) likewise.held
      · exact absurd (likewise.guards ▸ found) (without' lock)
      · exact absurd (likewise.guards ▸ found') (without lock')
      · rw [same, same']
        exact ⟨rfl, likewise⟩
  | isAbsent entry =>
      refine ⟨?_, likewise⟩
      rw [LockTable.perform, LockTable.perform, likewise.handle]

end Likewise

/-- What is marked in a list. -/
def marked {α : Type} (list : List (α × Bool)) : List α := (list.filter (·.2)).map (·.1)

/-- What is not marked may be left out if it is poison: the answers to the rest are the same. -/
theorem Likewise.performAll_marked {other : LockTable} (likewise : table.Likewise other)
    (steps : List (Step × Bool))
    (poison : ∀ pair ∈ steps, pair.2 = false → ∃ entry, pair.1 = .poison entry) :
    (other.performAll (marked steps)).1 =
      marked ((table.performAll (steps.map (·.1))).1.zip (steps.map (·.2))) := by
  induction steps generalizing table other with
  | nil => rfl
  | cons pair steps inductionHypothesis =>
      have later := fun pair member => poison pair (List.mem_cons_of_mem _ member)
      match pair with
      | (step, true) =>
          obtain ⟨answered, after⟩ := likewise.perform step
          have rest := inductionHypothesis after later
          simp only [marked] at rest
          simp [marked, performAll, answered, after.free, rest]
      | (step, false) =>
          obtain ⟨entry, rfl⟩ := poison _ List.mem_cons_self rfl
          have rest := inductionHypothesis (likewise.poison entry) later
          simp only [marked] at rest
          simp [marked, performAll, rest]

/-! ### Who keeps whom out -/

/-- No guard that lives was taken on an entry that goes back to `original`. -/
def Unheld (entries : List LockEntry) (holdings : List Holding) (original : Nat) : Prop :=
  ∀ holding ∈ holdings, holding.live = true → ¬ LockEntry.Original entries holding.entry original

/-- Whether a step is about an entry that goes back to `original`, or about a guard taken on one. -/
def Step.Concerns (entries : List LockEntry) (holdings : List Holding) (original : Nat) :
    Step → Prop
  | .lock entry => LockEntry.Original entries entry original
  | .tryLock entry => LockEntry.Original entries entry original
  | .poison entry => LockEntry.Original entries entry original
  | .drop guard => ∃ holding, holdings[guard]? = some holding ∧
      LockEntry.Original entries holding.entry original
  | .isAbsent _ => False

theorem unheld_concat :
    Unheld entries (holdings ++ [{ entry := entry }]) original ↔
      Unheld entries holdings original ∧ ¬ LockEntry.Original entries entry original := by
  rw [Unheld, List.forall_mem_append, List.forall_mem_singleton]
  simp [Unheld]

/-- A guard that dies may have been the one that kept others out of its own original. -/
theorem unheld_set {guard : Nat} {holding : Holding} (found : holdings[guard]? = some holding)
    (elsewhere : ¬ LockEntry.Original entries holding.entry original) :
    Unheld entries (holdings.set guard { holding with live := false }) original ↔
      Unheld entries holdings original := by
  constructor
  · intro unheld other member lives traced
    obtain ⟨place, at'⟩ := List.mem_iff_getElem?.mp member
    have differs : guard ≠ place := by
      intro same
      rw [← same, found] at at'
      cases at'
      exact elsewhere traced
    have kept : (holdings.set guard { holding with live := false })[place]? = some other :=
      (List.getElem?_set_ne differs).trans at'
    exact unheld other (List.mem_of_getElem? kept) lives traced
  · intro unheld other member lives traced
    obtain ⟨place, at'⟩ := List.mem_iff_getElem?.mp member
    have old := AtMostOnce.getElem?_of_set (·.live = true) at' lives (by simp)
    exact unheld other (List.mem_of_getElem? old.2) lives traced

theorem unheld_next {step : Step} {answer : Answer}
    (elsewhere : ¬ step.Concerns entries holdings original) :
    Unheld entries (Holding.next holdings step answer) original ↔
      Unheld entries holdings original := by
  unfold Holding.next
  split
  · exact unheld_concat.trans (and_iff_left elsewhere)
  · exact unheld_concat.trans (and_iff_left elsewhere)
  · split
    · rename_i holding found
      exact unheld_set found fun traced => elsewhere ⟨holding, found, traced⟩
    · exact Iff.rfl
  · exact Iff.rfl

/-- How the locks of a table, made as `entries` say, keep each other's users out while the guards
taken so far are `holdings`. -/
structure Excludes (entries : List LockEntry) (holdings : List Holding) (table : LockTable) :
    Prop where
  /-- A lock is given if there is none, or no guard lives on an entry with the same original. -/
  gives {entry original : Nat} : LockEntry.Original entries entry original →
    (table.Gives entry ↔
      entries[original]? = some .absent ∨ Unheld entries holdings original)
  /-- Waiting ends at once exactly if the lock is given to one who does not wait. -/
  waits (entry : Nat) : (table.perform (.lock entry)).1 = .acquired ↔ table.Gives entry
  /-- What a table shows to be free is what it gives. -/
  shows {entry : Nat} : entry < entries.length →
    (table.free[entry]? = some true ↔ table.Gives entry)
  /-- A mutex has one guard that lives, or none. -/
  alone {original : Nat} : entries[original]? = some .fresh →
    AtMostOnce (fun holding : Holding =>
      holding.live = true ∧ LockEntry.Original entries holding.entry original) holdings
  /-- What concerns another original changes nothing. -/
  apart {step : Step} {entry original : Nat} : ¬ step.Concerns entries holdings original →
    LockEntry.Original entries entry original →
    ((table.perform step).2.Gives entry ↔ table.Gives entry)
  /-- A guard can be dropped exactly while it lives. -/
  drops (guard : Nat) : (table.perform (.drop guard)).1 = .dropped ↔
    ∃ entry, holdings[guard]? = some { entry := entry }
  /-- A guard that is dropped frees the entries with its original and no other. -/
  frees {guard taken original entry own : Nat} :
    holdings[guard]? = some { entry := taken } → LockEntry.Original entries taken original →
    LockEntry.Original entries entry own →
    ((table.perform (.drop guard)).2.Gives entry ↔ table.Gives entry ∨ own = original)
  /-- Where there is no lock, nobody is kept out. -/
  neverBlocks {entry original : Nat} : LockEntry.Original entries entry original →
    entries[original]? = some .absent → table.Gives entry
  /-- Poison leaves everything as free as it was. -/
  spoils (entry : Nat) : (table.perform (.poison entry)).2.free = table.free

namespace Consistent

variable (consistent : Consistent holdings table)
  (resolved : LockEntry.resolveAll entries = some table.handles)
include consistent resolved

theorem gives_original (traced : LockEntry.Original entries entry original) :
    table.Gives entry ↔ entries[original]? = some .absent ∨ Unheld entries holdings original := by
  rw [consistent.gives_iff]
  have holds (holding : Holding) (id : Nat) : holding.Holds table.handles id ↔
      holding.live = true ∧ LockEntry.Original entries holding.entry id ∧
        entries[id]? = some .fresh := and_congr_right fun _ => LockEntry.getD_eq_mutex resolved
  simp only [LockTable.handle, LockEntry.getD_eq_mutex resolved, holds]
  constructor
  · intro free
    refine traced.made.symm.imp_right fun fresh holding member lives also => ?_
    exact free original ⟨traced, fresh⟩ holding member ⟨lives, also, fresh⟩
  · rintro (absent | unheld) id ⟨also, fresh⟩ holding member ⟨lives, holds, _⟩
    · rw [← traced.unique also, absent] at fresh
      cases fresh
    · exact unheld holding member lives (traced.unique also ▸ holds)

theorem alone_original (fresh : entries[original]? = some .fresh) :
    AtMostOnce (fun holding : Holding =>
      holding.live = true ∧ LockEntry.Original entries holding.entry original) holdings := by
  intro first second one other found also has too
  exact consistent.alone original first second one other found also
    ⟨has.1, (LockEntry.getD_eq_mutex resolved).mpr ⟨has.2, fresh⟩⟩
    ⟨too.1, (LockEntry.getD_eq_mutex resolved).mpr ⟨too.2, fresh⟩⟩

theorem gives_after_drop {guard taken own : Nat}
    (found : holdings[guard]? = some { entry := taken })
    (from' : LockEntry.Original entries taken original)
    (traced : LockEntry.Original entries entry own) :
    (table.perform (.drop guard)).2.Gives entry ↔ table.Gives entry ∨ own = original := by
  have after := (consistent.step (.drop guard)).gives_original
    (resolved.trans (congrArg some (handles_perform table (.drop guard)).symm)) traced
  rw [consistent.drops.mpr ⟨taken, found⟩] at after
  simp only [Holding.next, found] at after
  rw [after, consistent.gives_original resolved traced]
  by_cases same : own = original
  · subst same
    refine iff_of_true ?_ (.inr rfl)
    refine traced.made.symm.imp_right fun fresh other member lives also => ?_
    obtain ⟨place, at'⟩ := List.mem_iff_getElem?.mp member
    obtain ⟨differs, old⟩ := AtMostOnce.getElem?_of_set (·.live = true) at' lives (by simp)
    exact differs (consistent.alone_original resolved fresh place guard other _ old found
      ⟨lives, also⟩ ⟨rfl, from'⟩)
  · rw [unheld_set found fun also => same (also.unique from')]
    simp [same]

theorem excludes : Excludes entries holdings table where
  gives := consistent.gives_original resolved
  waits entry := by
    rw [Gives, perform, perform]
    rcases acquire_cases table entry .wouldBlock with ⟨gives, same⟩ | ⟨refuses, same⟩ <;>
      rcases acquire_cases table entry .blocked with ⟨gives', same'⟩ | ⟨refuses', same'⟩ <;>
      simp_all
  shows := by
    intro entry inside
    have handle : table.handles[entry]? = some (table.handle entry) := by
      rw [LockTable.handle, List.getD_eq_getElem?_getD,
        List.getElem?_eq_getElem (LockEntry.length_resolveAll resolved ▸ inside), Option.getD_some]
    rw [LockTable.gives_iff, free, List.getElem?_map, handle, Option.map_some, Option.some_inj]
  alone := consistent.alone_original resolved
  apart := by
    intro step entry original elsewhere traced
    have after := (consistent.step step).gives_original
      (resolved.trans (congrArg some (handles_perform table step).symm)) traced
    rw [after, unheld_next elsewhere, consistent.gives_original resolved traced]
  drops guard := consistent.drops
  frees := consistent.gives_after_drop resolved
  neverBlocks traced absent := (consistent.gives_original resolved traced).mpr (.inl absent)
  spoils entry := (Likewise.poison ⟨rfl, rfl, rfl⟩ entry).free

end Consistent

end LockTable

/-- How a table of locks, made as `entries` say, serves its users from its first step on. -/
structure LockTable.ExcludesByOriginal (entries : List LockEntry) (handles : List DeviceLock) :
    Prop where
  traced {entry : Nat} : entry < entries.length →
    ∃ original, LockEntry.Original entries entry original
  excludes (steps : List Step) :
    Excludes entries (holdings { handles } steps) (after { handles } steps)
  /-- Steps that poison a lock may be left out, any of them, and no other step is answered otherwise
  or leaves other locks free. -/
  unspoilt (steps : List (Step × Bool)) :
    (∀ pair ∈ steps, pair.2 = false → ∃ entry, pair.1 = .poison entry) →
    (performAll { handles } (marked steps)).1 =
      marked ((performAll { handles } (steps.map (·.1))).1.zip (steps.map (·.2)))

/-- The locks of a table exclude each other's users by their originals, whatever was done with them
before, and what was poisoned on the way makes no difference to any answer. -/
theorem guards_exclude_by_original {entries : List LockEntry} {handles : List DeviceLock}
    (resolved : LockEntry.resolveAll entries = some handles) :
    LockTable.ExcludesByOriginal entries handles where
  traced inside :=
    LockEntry.exists_original resolved (LockEntry.length_resolveAll resolved ▸ inside)
  excludes steps := by
    have consistent := (LockTable.Consistent.initial handles).run steps
    exact consistent.excludes
      (resolved.trans (congrArg some (LockTable.handles_after { handles } steps).symm))
  unspoilt steps poison := LockTable.Likewise.performAll_marked ⟨rfl, rfl, rfl⟩ steps poison

/-- A guard taken through a clone of a clone, behind a panic, keeps the original's users out. -/
theorem clone_of_clone_excludes :
    LockEntry.resolveAll [.fresh, .absent, .clone 0, .clone 2] =
      some [.mutex 0, .absent, .mutex 0, .mutex 0] ∧
    ¬ (LockTable.after { handles := [.mutex 0, .absent, .mutex 0, .mutex 0] }
      [.poison 2, .lock 1, .lock 3]).Gives 0 := by
  have resolved : LockEntry.resolveAll [.fresh, .absent, .clone 0, .clone 2] =
      some [.mutex 0, .absent, .mutex 0, .mutex 0] := by decide
  have excludes := (guards_exclude_by_original resolved).excludes [.poison 2, .lock 1, .lock 3]
  refine ⟨resolved, fun gives => ?_⟩
  rcases (excludes.gives (.fresh rfl)).mp gives with absent | unheld
  · cases absent
  · exact unheld { entry := 3 } (by decide) rfl (.clone rfl (.clone rfl (.fresh rfl)))

/-- Behind the same steps a lock that is none is given again. -/
example : (LockTable.after { handles := [.mutex 0, .absent, .mutex 0, .mutex 0] }
    [.poison 2, .lock 1, .lock 3]).free = [false, true, false, false] := by decide

end HardwareDecode
