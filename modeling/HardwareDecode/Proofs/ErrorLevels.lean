/-
Module: HardwareDecode.Proofs.ErrorLevels
Purpose: What the sources of an assembler's failure say.  A reason is made of levels, each of them
  a base error with remarks around it.  In any library of errors that does what is documented of it,
  following the sources comes to an end and tells every remark and every base error, from the
  outside in, and the message of the failure holds the same texts.
Main exports: ErrorLibrary, ErrorLibrary.Documented, ErrorLibrary.Follows, Level, Cause.HasLevels,
  ErrorLibrary.Tells, sources_tell_every_level
-/
import HardwareDecode.FrameError

namespace HardwareDecode

variable {ε : Type}

/-! ### The library that carries errors -/

/-- The library that carries reasons as errors of its own type `ε`.  Nothing is known of these
errors but what the library says about them. -/
structure ErrorLibrary (ε : Type) where
  /-- An error that is a text. -/
  ofText (text : String) : ε
  /-- An error that has a text and perhaps a source of its own. -/
  ofError (text : String) (source : Option ε) : ε
  context (remark : String) (inner : ε) : ε
  /-- The text of an error without anything beneath it. -/
  text (error : ε) : String
  /-- The text of an error with everything beneath it. -/
  fullText (error : ε) : String
  source (error : ε) : Option ε
  /-- The text that is derived for an error of a frame from its wording. -/
  frameText (error : FrameError) : String
  /-- The source that is derived for an error of a frame. -/
  frameSource (error : FrameError) : Option ε

/-- How a reason is carried: each part of it is handed to the library. -/
def Cause.carried (library : ErrorLibrary ε) : Cause → ε
  | .message text => library.ofText text
  | .status code => library.ofError code.text none
  | .frame error => library.ofError (library.frameText error) (library.frameSource error)
  | .refusal reason => library.ofError reason.message none
  | .context remark inner => library.context remark (inner.carried library)

namespace ErrorLibrary

/-- The errors that are passed on the way from `start` along the sources, if the way has an end. -/
inductive Follows (library : ErrorLibrary ε) : (start : Option ε) → List ε → Prop where
  | ended : library.Follows none []
  | passes {error : ε} {beneath : List ε}
      (further : library.Follows (library.source error) beneath) :
      library.Follows (some error) (error :: beneath)

/-- What the documentation of the library says. -/
structure Documented (library : ErrorLibrary ε) : Prop where
  text_ofText (text : String) : library.text (library.ofText text) = text
  source_ofText (text : String) : library.source (library.ofText text) = none
  text_ofError (text : String) (source : Option ε) :
    library.text (library.ofError text source) = text
  source_ofError (text : String) (source : Option ε) :
    library.source (library.ofError text source) = source
  /-- A remark goes around the outside. -/
  text_context (remark : String) (inner : ε) : library.text (library.context remark inner) = remark
  source_context (remark : String) (inner : ε) :
    library.source (library.context remark inner) = some inner
  /-- The full text of an error joins its own text and those of its sources. -/
  fullText_eq {error : ε} {passed : List ε} (follows : library.Follows (some error) passed) :
    library.fullText error = String.intercalate ": " (passed.map library.text)
  /-- The wording of an assembler's failure has a place for the full text of the reason. -/
  frameText_assembler (cause : Cause) : library.frameText (.assembler cause) =
    "bitstream assembly failed: " ++ library.fullText (cause.carried library)
  frameText_of_plain {error : FrameError} (plain : error.cause? = none) :
    library.frameText error = error.message
  /-- What an error was made from is its source. -/
  frameSource_eq (error : FrameError) :
    library.frameSource error = error.cause?.map (Cause.carried library)

theorem Follows.unique {library : ErrorLibrary ε} {start : Option ε} {one other : List ε}
    (first : library.Follows start one) (second : library.Follows start other) : one = other := by
  induction first generalizing other with
  | ended =>
      cases second
      rfl
  | passes _ inductionHypothesis =>
      cases second with
      | passes further => rw [inductionHypothesis further]

end ErrorLibrary

/-! ### The levels of a reason -/

/-- An error to which remarks may be added. -/
inductive BaseError where
  | text (text : String)
  | status (status : Status)
  | refusal (refusal : Refusal)
  | frame (error : FrameError)

namespace BaseError

def cause : BaseError → Cause
  | .text words => .message words
  | .status code => .status code
  | .refusal reason => .refusal reason
  | .frame error => .frame error

/-- What the error says by itself. -/
def message : BaseError → String
  | .text words => words
  | .status code => code.text
  | .refusal reason => reason.message
  | .frame error => error.message

/-- The reason of which the next level inside is made. -/
def nested? : BaseError → Option Cause
  | .frame error => error.cause?
  | _ => none

end BaseError

/-- A reason with remarks put around it, one after the other. -/
def Cause.remarked (inner : Cause) (remarks : List String) : Cause :=
  remarks.foldl (fun around remark => .context remark around) inner

/-- A base error and the remarks around it, in the order in which they were added. -/
structure Level where
  base : BaseError
  remarks : List String

namespace Level

def cause (level : Level) : Cause :=
  level.base.cause.remarked level.remarks

/-- What a level says: the remark that was added last comes first, and the base error last. -/
def texts (level : Level) : List String :=
  level.remarks.reverse ++ [level.base.message]

def remark (level : Level) (remark : String) : Level :=
  { level with remarks := level.remarks ++ [remark] }

theorem cause_remark (level : Level) (remark : String) :
    (level.remark remark).cause = .context remark level.cause := by
  simp [cause, Level.remark, Cause.remarked]

theorem length_texts (levels : List Level) :
    (levels.flatMap texts).length = (levels.flatMap remarks).length + levels.length := by
  induction levels with
  | nil => rfl
  | cons level levels inductionHypothesis =>
      simp only [List.flatMap_cons, List.length_append, inductionHypothesis, texts,
        List.length_reverse, List.length_cons, List.length_nil]
      omega

end Level

/-- The levels of which a reason is made, from the outside in.  If the base error of a level is an
assembler's failure, the next level is inside it. -/
inductive Cause.HasLevels : Cause → List Level → Prop where
  | innermost (level : Level) (plain : level.base.nested? = none) :
      level.cause.HasLevels [level]
  | around (level : Level) {inner : Cause} {levels : List Level}
      (nested : level.base.nested? = some inner) (inside : inner.HasLevels levels) :
      level.cause.HasLevels (level :: levels)

namespace Cause

/-- Induction on a reason, into the reasons of the assemblers' failures in it. -/
@[elab_as_elim]
theorem nested_induction {motive : Cause → Prop}
    (base : ∀ base : BaseError, (∀ inner, base.nested? = some inner → motive inner) →
      motive base.cause)
    (context : ∀ remark inner, motive inner → motive (.context remark inner)) :
    ∀ cause, motive cause
  | .message words => base (.text words) nofun
  | .status code => base (.status code) nofun
  | .refusal reason => base (.refusal reason) nofun
  | .frame error => base (.frame error) fun inner nested =>
      match error, nested with
      | .assembler inner, rfl => inner.nested_induction base context
  | .context remark inner => context remark inner (inner.nested_induction base context)

/-- A further remark belongs to the outermost level. -/
theorem HasLevels.context {cause : Cause} {levels : List Level} (made : cause.HasLevels levels)
    (remark : String) : ∃ levels, (Cause.context remark cause).HasLevels levels := by
  cases made with
  | innermost level plain =>
      rw [← level.cause_remark]
      exact ⟨_, .innermost (level.remark remark) plain⟩
  | around level nested inside =>
      rw [← level.cause_remark]
      exact ⟨_, .around (level.remark remark) nested inside⟩

theorem exists_levels (cause : Cause) : ∃ levels, cause.HasLevels levels := by
  induction cause using nested_induction with
  | base base inside =>
      cases nested : base.nested? with
      | none => exact ⟨_, .innermost ⟨base, []⟩ nested⟩
      | some inner =>
          obtain ⟨levels, made⟩ := inside inner nested
          exact ⟨_, .around ⟨base, []⟩ nested made⟩
  | context remark inner inductionHypothesis =>
      obtain ⟨levels, made⟩ := inductionHypothesis
      exact made.context remark

theorem chain_remarked (inner : Cause) (remarks : List String) :
    (inner.remarked remarks).chain = remarks.reverse ++ inner.chain := by
  induction remarks generalizing inner with
  | nil => rfl
  | cons remark remarks inductionHypothesis =>
      calc ((Cause.context remark inner).remarked remarks).chain
          = remarks.reverse ++ remark :: inner.chain := inductionHypothesis _
        _ = (remark :: remarks).reverse ++ inner.chain := by simp

end Cause

theorem FrameError.chain_eq (error : FrameError) :
    error.chain = error.cause?.elim [] Cause.chain := by
  cases error <;> rfl

theorem BaseError.chain_cause (base : BaseError) :
    base.cause.chain = base.message :: base.nested?.elim [] Cause.chain := by
  cases base with
  | frame error => exact congrArg (error.message :: ·) error.chain_eq
  | _ => rfl

/-- The chain of a reason goes through its levels. -/
theorem Cause.HasLevels.chain_eq {cause : Cause} {levels : List Level}
    (made : cause.HasLevels levels) : cause.chain = levels.flatMap Level.texts := by
  induction made with
  | innermost level plain =>
      rw [Level.cause, Cause.chain_remarked, BaseError.chain_cause, plain]
      simp [Level.texts]
  | around level nested _ inductionHypothesis =>
      rw [Level.cause, Cause.chain_remarked, BaseError.chain_cause, nested]
      simp [Level.texts, inductionHypothesis]

/-! ### Following the sources -/

namespace ErrorLibrary

variable {library : ErrorLibrary ε}

/-- Whoever follows the sources of a carried reason is told its chain. -/
def TellsChain (library : ErrorLibrary ε) (cause : Cause) : Prop :=
  ∃ passed, library.Follows (some (cause.carried library)) passed ∧
    passed.map library.text = cause.chain

theorem Documented.frameText_of_nested (documented : library.Documented) {error : FrameError}
    (inside : ∀ inner, error.cause? = some inner → library.TellsChain inner) :
    library.frameText error = error.message := by
  cases error with
  | assembler cause =>
      obtain ⟨passed, follows, told⟩ := inside cause rfl
      rw [documented.frameText_assembler, documented.fullText_eq follows, told]
      rfl
  | _ => exact documented.frameText_of_plain rfl

theorem Documented.text_base (documented : library.Documented) {base : BaseError}
    (inside : ∀ inner, base.nested? = some inner → library.TellsChain inner) :
    library.text (base.cause.carried library) = base.message := by
  cases base with
  | text words => exact documented.text_ofText words
  | frame error => exact (documented.text_ofError _ _).trans (documented.frameText_of_nested inside)
  | _ => exact documented.text_ofError _ _

theorem Documented.source_base (documented : library.Documented) (base : BaseError) :
    library.source (base.cause.carried library) =
      base.nested?.map (Cause.carried library) := by
  cases base with
  | text words => exact documented.source_ofText words
  | frame error => exact (documented.source_ofError _ _).trans (documented.frameSource_eq error)
  | _ => exact documented.source_ofError _ _

theorem Documented.tellsChain (documented : library.Documented) (cause : Cause) :
    library.TellsChain cause := by
  -- The text of a base error may hold the full text of a reason inside, so that what is told of the
  -- reason inside is needed for the text as well as for the way beneath it.
  induction cause using Cause.nested_induction with
  | base base inside =>
      obtain ⟨beneath, follows, told⟩ : ∃ beneath,
          library.Follows (base.nested?.map (Cause.carried library)) beneath ∧
            beneath.map library.text = base.nested?.elim [] Cause.chain := by
        cases nested : base.nested? with
        | none => exact ⟨[], .ended, rfl⟩
        | some inner => exact inside inner nested
      refine ⟨_ :: beneath, .passes (documented.source_base base ▸ follows), ?_⟩
      rw [List.map_cons, documented.text_base inside, told, base.chain_cause]
  | context remark inner inductionHypothesis =>
      obtain ⟨passed, follows, told⟩ := inductionHypothesis
      refine ⟨_ :: passed, .passes ((documented.source_context _ _).symm ▸ follows), ?_⟩
      rw [List.map_cons, told, Cause.carried, documented.text_context]
      rfl

/-- What the sources of an assembler's failure tell: the errors that are passed on the way. -/
structure Tells (library : ErrorLibrary ε) (cause : Cause) (passed : List ε) : Prop where
  /-- The way has an end. -/
  follows : library.Follows (library.frameSource (.assembler cause)) passed
  /-- There is no other way. -/
  unique (other : List ε) :
    library.Follows (library.frameSource (.assembler cause)) other → other = passed
  chain : passed.map library.text = (FrameError.assembler cause).chain
  /-- The way goes through the levels, of which nothing is lost. -/
  texts {levels : List Level} : cause.HasLevels levels →
    passed.map library.text = levels.flatMap Level.texts
  /-- There is a text for each remark and for each base error. -/
  count {levels : List Level} : cause.HasLevels levels →
    passed.length = (levels.flatMap Level.remarks).length + levels.length
  message : (FrameError.assembler cause).message =
    "bitstream assembly failed: " ++ String.intercalate ": " (passed.map library.text)

end ErrorLibrary

/-- Every reason has levels, and the sources of an assembler's failure tell them one after the
other, as its message does. -/
theorem sources_tell_every_level {library : ErrorLibrary ε} (documented : library.Documented) :
    (∀ error, library.frameText error = error.message) ∧
      ∀ cause : Cause,
        (∃ levels, cause.HasLevels levels) ∧ ∃ passed, library.Tells cause passed := by
  refine ⟨fun error => documented.frameText_of_nested fun inner _ => documented.tellsChain inner,
    fun cause => ⟨cause.exists_levels, ?_⟩⟩
  obtain ⟨passed, follows, told⟩ := documented.tellsChain cause
  have start : library.frameSource (.assembler cause) = some (cause.carried library) :=
    documented.frameSource_eq _
  exact ⟨passed,
    { follows := start.symm ▸ follows
      unique := fun other also => (start ▸ also).unique follows
      chain := told
      texts := fun made => told.trans made.chain_eq
      count := fun made => by
        rw [← Level.length_texts, ← made.chain_eq, ← told, List.length_map]
      message := by
        rw [told]
        rfl }⟩

/-! ### A library that does what is said of it -/

/-- An error as its text and the texts beneath it. -/
structure Trail where
  text : String
  beneath : List String

namespace Trail

def texts (trail : Trail) : List String :=
  trail.text :: trail.beneath

def ofTexts? : List String → Option Trail
  | [] => none
  | text :: beneath => some ⟨text, beneath⟩

/-- Errors that hold the texts of their sources. -/
def library : ErrorLibrary Trail where
  ofText words := ⟨words, []⟩
  ofError words source := ⟨words, source.elim [] texts⟩
  context remark inner := ⟨remark, inner.texts⟩
  text := Trail.text
  fullText trail := String.intercalate ": " trail.texts
  source trail := ofTexts? trail.beneath
  frameText := FrameError.message
  frameSource error := ofTexts? error.chain

theorem ofTexts?_texts (trail : Trail) : ofTexts? trail.texts = some trail := rfl

theorem texts_ofTexts? (texts : List String) : (ofTexts? texts).elim [] Trail.texts = texts := by
  cases texts <;> rfl

theorem ofTexts?_elim (source : Option Trail) : ofTexts? (source.elim [] texts) = source := by
  cases source <;> rfl

theorem texts_carried : ∀ cause : Cause, (cause.carried library).texts = cause.chain
  | .frame error => congrArg (error.message :: ·) (texts_ofTexts? error.chain)
  | .context remark inner => congrArg (remark :: ·) (texts_carried inner)
  | .message _ | .status _ | .refusal _ => rfl

theorem texts_of_follows {start : Option Trail} {passed : List Trail}
    (follows : library.Follows start passed) : passed.map Trail.text = start.elim [] texts := by
  induction follows with
  | ended => rfl
  | @passes trail beneath _ inductionHypothesis =>
      rw [List.map_cons, inductionHypothesis]
      exact congrArg (trail.text :: ·) (texts_ofTexts? trail.beneath)

theorem documented : library.Documented where
  text_ofText _ := rfl
  source_ofText _ := rfl
  text_ofError _ _ := rfl
  source_ofError _ source := ofTexts?_elim source
  text_context _ _ := rfl
  source_context _ inner := ofTexts?_texts inner
  fullText_eq follows := congrArg (String.intercalate ": ") (texts_of_follows follows).symm
  frameText_assembler cause :=
    congrArg (fun texts => "bitstream assembly failed: " ++ String.intercalate ": " texts)
      (texts_carried cause).symm
  frameText_of_plain _ := rfl
  frameSource_eq error := by
    cases error with
    | assembler cause =>
        change ofTexts? cause.chain = some (cause.carried library)
        rw [← texts_carried, ofTexts?_texts]
    | _ => rfl

end Trail

/-- A busy device, about which an assembler's failure was passed on as another one. -/
def Cause.passedOn : Cause :=
  .context "outer" <| .context "inner" <| .frame <| .assembler <| .frame <| .assembler <|
    .context "slice" <| .status .pending

theorem failure_passed_on_is_told :
    Trail.library.Documented ∧
      ∃ levels passed, Cause.passedOn.HasLevels levels ∧
        levels.map Level.remarks = [["inner", "outer"], [], ["slice"]] ∧
        Trail.library.Tells Cause.passedOn passed ∧
        passed.map Trail.text =
          ["outer", "inner",
            "bitstream assembly failed: " ++
              "bitstream assembly failed: slice: 0x8000000a: slice: 0x8000000a",
            "bitstream assembly failed: slice: 0x8000000a", "slice", "0x8000000a"] := by
  obtain ⟨_, told⟩ := sources_tell_every_level Trail.documented
  obtain ⟨_, passed, tells⟩ := told Cause.passedOn
  have inside : (Cause.context "slice" (.status .pending)).HasLevels _ :=
    .innermost ⟨.status .pending, ["slice"]⟩ rfl
  have made : Cause.passedOn.HasLevels _ :=
    .around ⟨.frame (.assembler (.frame (.assembler _))), ["inner", "outer"]⟩ rfl
      (.around ⟨.frame (.assembler _), []⟩ rfl inside)
  exact ⟨Trail.documented, _, passed, made, rfl, tells,
    (tells.texts made).trans (by decide +kernel)⟩

end HardwareDecode
