/-
Module: HardwareDecode.Proofs.SurfaceIndex
Purpose: Where a surface stands in the table of a device.  Its index is the place of the first entry
  that equals it, equal surfaces share one index and others never do, and whatever a session has
  been through, failures and panics included, the answer is still the same.
Main exports: SurfaceTable.lookUp, SurfaceTable.IndexedBy, Backend.AnswersStably,
  surface_index_is_stable_first_match
-/
import Mathlib.Data.List.Forall2
import HardwareDecode.Backend.SurfaceTable
import HardwareDecode.Driver.Scripted
import HardwareDecode.Proofs.LockDiscipline

namespace HardwareDecode

variable {S ν σ ο τ α : Type}

/-! ### The first entry that equals a surface -/

namespace SurfaceTable

/-- What a session says of a surface: its index, unless the table has no such surface. -/
def lookUp [BEq S] (table : SurfaceTable S) (surface : S) : Except Refusal UInt32 :=
  (table.index? surface).elim (.error .foreignSurface) .ok

/-- An entry of a table equals a surface, and no entry before it does. -/
structure IsFirst [BEq S] (table : SurfaceTable S) (surface : S) (index : UInt32) : Prop where
  equal : ∃ entry, table.surfaces[index.toNat]? = some entry ∧ (entry == surface) = true
  earlier : ∀ {place : Nat} {entry : S}, place < index.toNat →
    table.surfaces[place]? = some entry → (entry == surface) = false

/-- Answers that give every surface its first place in a table. -/
structure IndexedBy [BEq S] (table : SurfaceTable S) (answer : S → Except Refusal UInt32) :
    Prop where
  found (surface : S) (index : UInt32) : answer surface = .ok index ↔ table.IsFirst surface index
  foreign (surface : S) : answer surface = .error .foreignSurface ↔
    ∀ entry ∈ table.surfaces, (entry == surface) = false
  /-- There is no other answer. -/
  decided (surface : S) :
    (∃ index, answer surface = .ok index) ∨ answer surface = .error .foreignSurface
  unique {one other : S} {index : UInt32} : answer one = .ok index →
    (answer other = .ok index ↔ (one == other) = true)
  shared {one other : S} : (one == other) = true → answer one = answer other

section

variable [BEq S] {table : SurfaceTable S} {surface : S} {index : UInt32}

theorem index?_eq_some_iff (small : table.surfaces.length ≤ UInt32.size) :
    table.index? surface = some index ↔
      table.surfaces.findIdx? (· == surface) = some index.toNat := by
  rw [index?]
  cases found : table.surfaces.findIdx? (· == surface) with
  | none => simp
  | some place =>
      obtain ⟨inside, _⟩ := List.findIdx?_eq_some_iff_getElem.mp found
      have bounded : place < UInt32.size := Nat.lt_of_lt_of_le inside small
      simp only [bounded, if_true, Option.some_inj]
      constructor
      · rintro rfl
        exact (UInt32.toNat_ofNat_of_lt' bounded).symm
      · rintro rfl
        exact UInt32.ofNat_toNat

theorem isFirst_iff (small : table.surfaces.length ≤ UInt32.size) :
    table.lookUp surface = .ok index ↔ table.IsFirst surface index := by
  have looked : table.lookUp surface = .ok index ↔ table.index? surface = some index := by
    rw [lookUp]
    cases table.index? surface <;> simp
  rw [looked, index?_eq_some_iff small, List.findIdx?_eq_some_iff_getElem]
  constructor
  · intro ⟨inside, equal, earlier⟩
    refine ⟨⟨_, List.getElem?_eq_getElem inside, equal⟩, fun before found => ?_⟩
    obtain ⟨_, rfl⟩ := List.getElem?_eq_some_iff.mp found
    exact Bool.eq_false_iff.mpr (earlier _ before)
  · intro ⟨⟨entry, found, equal⟩, earlier⟩
    obtain ⟨inside, rfl⟩ := List.getElem?_eq_some_iff.mp found
    refine ⟨inside, equal, fun place before => ?_⟩
    exact Bool.eq_false_iff.mp (earlier before (List.getElem?_eq_getElem _))

theorem foreign_iff (small : table.surfaces.length ≤ UInt32.size) :
    table.lookUp surface = .error .foreignSurface ↔
      ∀ entry ∈ table.surfaces, (entry == surface) = false := by
  rw [← List.findIdx?_eq_none_iff (p := (· == surface)), lookUp, index?]
  cases found : table.surfaces.findIdx? (· == surface) with
  | none => simp
  | some place =>
      obtain ⟨inside, _⟩ := List.findIdx?_eq_some_iff_getElem.mp found
      have bounded : place < UInt32.size := Nat.lt_of_lt_of_le inside small
      simp [bounded]

/-- A surface counts as the entry that equals it, whatever the table holds besides. -/
theorem index?_congr [EquivBEq S] {one other : S} (equal : (one == other) = true) :
    table.index? one = table.index? other := by
  have same : (fun entry : S => entry == one) = fun entry => entry == other :=
    funext fun entry => BEq.congr_right equal
  rw [index?, index?, same]

theorem indexedBy_lookUp [EquivBEq S] (small : table.surfaces.length ≤ UInt32.size) :
    table.IndexedBy table.lookUp where
  found surface index := isFirst_iff small
  foreign surface := foreign_iff small
  decided surface := by
    rw [lookUp]
    cases table.index? surface with
    | none => exact .inr rfl
    | some index => exact .inl ⟨index, rfl⟩
  unique {one other index} first := by
    constructor
    · intro second
      obtain ⟨entry, found, equal⟩ := ((isFirst_iff small).mp first).equal
      obtain ⟨same, also, equals⟩ := ((isFirst_iff small).mp second).equal
      rw [found] at also
      cases also
      exact BEq.trans (BEq.symm equal) equals
    · intro equal
      rw [← first, lookUp, lookUp, index?_congr equal]
  shared equal := by rw [lookUp, lookUp, index?_congr equal]

end

end SurfaceTable

/-! ### The same answer at every time -/

/-- The conversation of a session with a backend that answers for surfaces in one way. -/
def indexing (index? : S → Option UInt32) : Protocol S ν Unit where
  expects
    | .query (.surfaceIndex surface), answer => answer = index? surface
    | _, _ => True
  allows _ _ := True
  next _ _ _ := ()

theorem Backend.keepsStep_indexing (backend : Backend S σ ο) :
    (backend.environment : Environment S ν _ _).KeepsStep (indexing backend.surfaceIndex)
      fun _ _ => True := by
  intro _ world request served _ _ answered
  refine ⟨?_, trivial⟩
  cases request with
  | query query =>
      cases query with
      | surfaceIndex surface =>
          cases answered
          rfl
      | _ => trivial
  | _ => trivial

/-- Where everything may be asked, a program that is held to nothing obeys. -/
theorem Program.obeys_indexing (index? : S → Option UInt32) (program : Program S ν α) :
    program.Obeys (indexing index?) (fun _ _ => True) () := by
  induction program with
  | done value => exact Program.obeys_done.mpr trivial
  | ask request resume inductionHypothesis =>
      exact Program.obeys_ask.mpr ⟨trivial, fun answer _ => inductionHypothesis answer⟩

theorem Session.perform_surfaceIndex (session : Session) (surface : S) :
    (session.perform (.surfaceIndex surface) : Program S ν _) =
      .ask (.query (.surfaceIndex surface)) fun found =>
        .done (.surfaceIndex (found.elim (.error .foreignSurface) .ok), session) := by
  refine congrArg (Program.ask (.query (.surfaceIndex surface))) (funext fun found => ?_)
  cases found <;> rfl

/-- What a step is told of a surface, if it asks for one. -/
def Session.Step.Told (answer : S → Except Refusal UInt32) (step : Step S ν) (result : Result) :
    Prop :=
  ∀ surface, step = .surfaceIndex surface → result = .surfaceIndex (answer surface)

section

variable [BEq S] {table : SurfaceTable S}

theorem perform_told (table : SurfaceTable S) (session : Session) (step : Session.Step S ν) :
    (session.perform step).Obeys (indexing table.index?)
      (fun _ done => step.Told table.lookUp done.1) () := by
  cases step with
  | surfaceIndex surface =>
      rw [Session.perform_surfaceIndex]
      refine Program.obeys_ask.mpr ⟨trivial, fun found expected => ?_⟩
      obtain rfl : found = table.index? surface := expected
      apply Program.obeys_done.mpr
      rintro asked ⟨⟩
      rfl
  | _ => exact (Program.obeys_indexing _ _).weaken fun _ _ _ => nofun

theorem performAll_told (table : SurfaceTable S) (session : Session)
    (steps : List (Session.Step S ν)) :
    (session.performAll steps).Obeys (indexing table.index?)
      (fun _ done => List.Forall₂ (Session.Step.Told table.lookUp) steps done.1) () := by
  induction steps generalizing session with
  | nil => exact Program.obeys_done.mpr .nil
  | cons step steps inductionHypothesis =>
      rw [Session.performAll, Program.obeys_bind]
      apply (perform_told table session step).weaken
      intro _ done told
      rw [Program.obeys_bind]
      apply (inductionHypothesis done.2).weaken
      intro _ later all
      exact Program.obeys_done.mpr (.cons told all)

end

/-- Whatever a session is put through, it says the same of a surface: at each step that asked on the
way, and afterwards, where asking changes nothing. -/
structure Backend.AnswersStably (backend : Backend S σ ο) (answer : S → Except Refusal UInt32)
    (session : Session) (steps : List (Session.Step S ν)) (world : World σ) : Prop where
  /-- The steps come to their end with any lock that is free, unless everything is given up. -/
  stops : world.locks.isFree session.lock = true →
    ∃ trace journal rest after,
      backend.environment.Reaches (session.performAll steps) world trace journal rest after ∧
        ((∃ done, rest = .done done) ∨ ∃ resume, rest = .ask .abort resume)
  during : ∀ before, backend.run (session.performAll steps) world = some before →
    List.Forall₂ (Session.Step.Told answer) steps before.value.1
  after : ∀ before, backend.run (session.performAll steps) world = some before → ∀ surface,
    (backend.run (before.value.2.perform (.surfaceIndex surface : Session.Step S ν))
      before.world) =
        some
          { value := (.surfaceIndex (answer surface), before.value.2)
            world := before.world
            journal := [] }

/-- A session on a device with a table of surfaces gives the place of the first entry that equals a
surface, before and after whatever it is put through. -/
theorem surface_index_is_stable_first_match [BEq S] [EquivBEq S] {table : SurfaceTable S}
    (driver : Driver UInt32 S TableDescriptor σ ο)
    (small : table.surfaces.length ≤ UInt32.size) :
    table.IndexedBy table.lookUp ∧
      ∀ (session : Session) (steps : List (Session.Step S ν)) (world : World σ),
        (table.backend driver).AnswersStably table.lookUp session steps world := by
  refine ⟨SurfaceTable.indexedBy_lookUp small, fun session steps world => ?_⟩
  constructor
  · intro free
    exact (performAll_framed session steps).exists_stop_framed (Phase.inStep_idle free)
  · intro before ran
    obtain ⟨trace, reached⟩ := Environment.run_eq_some_iff.mp ran
    have told := Program.obeys_done.mp ((performAll_told table session steps).of_reaches
      (table.backend driver).keepsStep_indexing trivial reached).1
    exact told
  · intro before _ surface
    rw [Session.perform_surfaceIndex, Backend.run, Environment.run_ask]
    rfl

instance : EquivBEq NamedSurface where
  rfl := BEq.rfl (α := String)
  symm := BEq.symm (α := String)
  trans := BEq.trans (α := String)

/-- A table that names one surface twice. -/
def SurfaceTable.repeating : SurfaceTable NamedSurface where
  surfaces :=
    [{ name := "first", slice := 0 }, { name := "second", slice := 1 },
      { name := "first", slice := 2 }]

/-- A frame that panics, one that is not assembled, and a question in between. -/
def Session.Step.unlucky : List (Session.Step NamedSurface Empty) :=
  [.submit
      { surface := { name := "second", slice := 1 }
        pictureParameters := [1]
        assembler := .panic .outOfRange },
    .surfaceIndex { name := "first", slice := 2 },
    .submit
      { surface := { name := "first", slice := 0 }
        pictureParameters := [1]
        assembler := .fail (.stillBusy 0) }]

theorem repeated_surface_keeps_first_place :
    SurfaceTable.repeating.surfaces.length ≤ UInt32.size ∧
      SurfaceTable.repeating.lookUp { name := "first", slice := 2 } = .ok 0 ∧
        ((SurfaceTable.repeating.backend (Scripted.driver .absent)).AnswersStably
          SurfaceTable.repeating.lookUp { format := .surfaceTable, lock := .absent }
            Session.Step.unlucky { driver := {} }) ∧
          ((SurfaceTable.repeating.backend (Scripted.driver .absent)).run
            (Session.performAll { format := .surfaceTable, lock := .absent }
              Session.Step.unlucky) { driver := {} }).isSome = true := by
  have small : SurfaceTable.repeating.surfaces.length ≤ UInt32.size := by decide
  obtain ⟨indexed, stable⟩ := surface_index_is_stable_first_match (Scripted.driver .absent) small
  refine ⟨small, ?_, stable _ _ _, by decide +kernel⟩
  refine (indexed.found _ 0).mpr ⟨⟨{ name := "first", slice := 0 }, rfl, rfl⟩, ?_⟩
  intro place entry before
  exact absurd before (Nat.not_lt_zero place)

end HardwareDecode
