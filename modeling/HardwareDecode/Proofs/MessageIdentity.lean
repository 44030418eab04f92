/-
Module: HardwareDecode.Proofs.MessageIdentity
Purpose: Messages tell errors apart.  The first two characters of a message tell the form of the
  error and the kind of a buffer that is too small; the rest is read back part by part, decimal
  numbers up to the character that stops them, a status from its eight digits and a list of buffers
  kind by kind.
Main exports: Hex.value, Status.WrittenWith, number_append_inj, MessageForm,
  BufferKind.listText_inj, FrameError.form, FrameError.eq_of_message, messages_identify_errors
-/
import HardwareDecode.FrameError
import HardwareDecode.Proofs.FailureMessages
import Mathlib.Algebra.Group.Nat.Defs

namespace HardwareDecode

/-! ### Reading a status back -/

namespace Hex

def digitValue (char : Char) : Nat :=
  "0123456789abcdef".toList.idxOf char

/-- The number for which hexadecimal digits stand, the most significant first. -/
def value (digits : List Char) : Nat :=
  digits.foldl (fun higher digit => 16 * higher + digitValue digit) 0

theorem digitValue_digitChar {n : Nat} (below : n < 16) : digitValue (Nat.digitChar n) = n := by
  have each : ∀ digit : Fin 16, digitValue (Nat.digitChar digit) = digit := by decide
  exact each ⟨n, below⟩

theorem value_digits (width n : Nat) : value (digits width n) = n % 16 ^ width := by
  induction width generalizing n with
  | zero => simp [digits, value, Nat.mod_one]
  | succ width inductionHypothesis =>
      have last := digitValue_digitChar (Nat.mod_lt n (by decide : 0 < 16))
      calc value (digits (width + 1) n)
          = 16 * value (digits width (n / 16)) + n % 16 := by simp [digits, value, last]
        _ = 16 * (n / 16 % 16 ^ width) + n % 16 := by rw [inductionHypothesis]
        _ = n % 16 ^ (width + 1) := by rw [Nat.pow_succ', Nat.mod_mul, Nat.add_comm]

end Hex

namespace Status

/-- The status whose 32 bits are written with the given hexadecimal digits. -/
def ofDigits (digits : List Char) : Status where
  code := (Hex.value digits).toUInt32.toInt32

/-- A status is written as `0x` and eight hexadecimal digits, from which it is read back. -/
structure WrittenWith (status : Status) (digits : List Char) : Prop where
  text : status.text = "0x" ++ String.ofList digits
  length : digits.length = 8
  hexadecimal : ∀ digit ∈ digits, Hex.isDigit digit = true
  readBack : ofDigits digits = status

theorem exists_writtenWith (status : Status) : ∃ digits, status.WrittenWith digits := by
  refine ⟨Hex.digits 8 status.code.toUInt32.toNat, rfl, Hex.length_digits _ _,
    fun _ => Hex.isDigit_of_mem_digits, ?_⟩
  have bits : status.code.toUInt32.toNat % 16 ^ 8 = status.code.toUInt32.toNat :=
    Nat.mod_eq_of_lt status.code.toUInt32.toNat_lt
  rw [ofDigits, Hex.value_digits, bits]
  simp

theorem length_text (status : Status) : status.text.toList.length = 10 := by
  obtain ⟨digits, written⟩ := status.exists_writtenWith
  simp [written.text, written.length]

theorem text_injective {one other : Status} (same : one.text = other.text) : one = other := by
  obtain ⟨digits, written⟩ := one.exists_writtenWith
  obtain ⟨others, also⟩ := other.exists_writtenWith
  have digits_eq : digits = others := by
    rw [written.text, also.text, String.append_right_inj] at same
    exact String.ofList_injective same
  rw [← written.readBack, digits_eq, also.readBack]

end Status

/-! ### Reading numbers back -/

/-- A number is read up to the unit behind it, which begins with no digit. -/
theorem number_append_inj {m n : Nat} {unit one other : String} {stop : Char} {word : List Char}
    (begins : unit.toList = stop :: word) (apart : stop.isDigit = false)
    (same : toString m ++ (unit ++ one) = toString n ++ (unit ++ other)) :
    m = n ∧ one = other := by
  have front (number : Nat) (rest : String) :
      (toString number ++ (unit ++ rest)).toList.takeWhile Char.isDigit =
        Nat.toDigits 10 number := by
    rw [Nat.toString_eq_ofList_toDigits, String.toList_append, String.toList_append,
      String.toList_ofList, begins, List.takeWhile_append_of_pos fun _ member =>
        Nat.isDigit_of_mem_toDigits (by decide) (by decide) member]
    simp [apart]
  have digits : Nat.toDigits 10 m = Nat.toDigits 10 n := by rw [← front m one, same, front]
  have number : m = n := by
    rw [← Nat.ofDigitChars_ten_toDigits (n := m), digits, Nat.ofDigitChars_ten_toDigits]
  rw [number, String.append_right_inj, String.append_right_inj] at same
  exact ⟨number, same⟩

theorem eq_of_toString {m n : Nat} (same : toString m = toString n) : m = n := by
  have stopped : toString m ++ ("." ++ "") = toString n ++ ("." ++ "") := by rw [same]
  exact (number_append_inj rfl rfl stopped).1

/-! ### Reading a driver call back -/

def BufferKind.all : List BufferKind :=
  [pictureParameters, inverseQuantizationMatrix, sliceControl, bitstream]

namespace DriverStep

def all : List DriverStep :=
  [beginFrame, execute, endFrame] ++ BufferKind.all.map getBuffer ++
    BufferKind.all.map releaseBuffer

def ofText? (text : String) : Option DriverStep :=
  all.find? fun step => step.text == text

theorem ofText?_text (step : DriverStep) : ofText? step.text = some step := by
  cases step with
  | getBuffer kind | releaseBuffer kind => cases kind <;> decide +kernel
  | _ => decide +kernel

theorem text_injective {one other : DriverStep} (same : one.text = other.text) : one = other := by
  have found := ofText?_text one
  rw [same, ofText?_text] at found
  exact (Option.some.inj found).symm

end DriverStep

/-! ### The form of a message -/

/-- The forms of messages.  Where a message begins with the kind of a buffer, each kind is a form
of its own. -/
inductive MessageForm where
  | stillBusy
  | bufferTooSmall (kind : BufferKind)
  | driver
  | assembler
deriving DecidableEq

namespace MessageForm

def all : List MessageForm :=
  [stillBusy, driver, assembler] ++ BufferKind.all.map bufferTooSmall

/-- The first words of a message. -/
def front : MessageForm → String
  | stillBusy => "decoder still busy after "
  | bufferTooSmall kind => kind.text
  | driver => "driver error while "
  | assembler => "bitstream assembly failed: "

/-- Two characters tell the form. -/
def ofOpening? (opening : List Char) : Option MessageForm :=
  all.find? fun form => form.front.toList.take 2 == opening

theorem ofOpening?_front (form : MessageForm) :
    ofOpening? (form.front.toList.take 2) = some form := by
  cases form with
  | bufferTooSmall kind => cases kind <;> decide +kernel
  | _ => decide +kernel

theorem two_le_length_front (form : MessageForm) : 2 ≤ form.front.toList.length := by
  cases form with
  | bufferTooSmall kind => cases kind <;> decide
  | _ => decide

/-- Texts that begin with the words of two forms differ. -/
theorem eq_of_append {one other : MessageForm} {rest rest' : String}
    (same : one.front ++ rest = other.front ++ rest') : one = other := by
  have opening (form : MessageForm) (rest : String) :
      (form.front ++ rest).toList.take 2 = form.front.toList.take 2 := by
    rw [String.toList_append, List.take_append_of_le_length form.two_le_length_front]
  have found := ofOpening?_front one
  rw [← opening one rest, same, opening, ofOpening?_front] at found
  exact (Option.some.inj found).symm

end MessageForm

/-! ### Reading a list of kinds back -/

namespace BufferKind

theorem eq_of_text_append {one other : BufferKind} {rest rest' : String}
    (same : one.text ++ rest = other.text ++ rest') : one = other ∧ rest = rest' := by
  have forms : MessageForm.bufferTooSmall one = .bufferTooSmall other :=
    MessageForm.eq_of_append same
  cases forms
  exact ⟨rfl, (String.append_right_inj _).mp same⟩

/-- A list of kinds in messages, from behind one of its kinds on. -/
def listEnd : List BufferKind → String
  | [] => "]"
  | kind :: kinds => ", " ++ (kind.text ++ listEnd kinds)

theorem intercalate_append (kind : BufferKind) (kinds : List BufferKind) :
    String.intercalate ", " ((kind :: kinds).map text) ++ "]" = kind.text ++ listEnd kinds := by
  induction kinds generalizing kind with
  | nil => rw [List.map_singleton, String.intercalate_singleton, listEnd]
  | cons next kinds inductionHypothesis =>
      have later := inductionHypothesis next
      rw [List.map_cons] at later
      rw [List.map_cons, List.map_cons, String.intercalate_cons_cons, String.append_assoc, later,
        String.append_assoc, listEnd]

theorem listText_cons (kind : BufferKind) (kinds : List BufferKind) :
    listText (kind :: kinds) = "[" ++ (kind.text ++ listEnd kinds) := by
  rw [listText, String.append_assoc, intercalate_append]

theorem listEnd_injective {one other : List BufferKind} (same : listEnd one = listEnd other) :
    one = other := by
  induction one generalizing other with
  | nil =>
      cases other with
      | nil => rfl
      | cons kind kinds => simp [listEnd, ← String.toList_inj] at same
  | cons kind kinds inductionHypothesis =>
      cases other with
      | nil => simp [listEnd, ← String.toList_inj] at same
      | cons kind' kinds' =>
          rw [listEnd, listEnd, String.append_right_inj] at same
          obtain ⟨rfl, later⟩ := eq_of_text_append same
          rw [inductionHypothesis later]

/-- No kind begins with the bracket that closes an empty list. -/
theorem listText_nil_ne (kind : BufferKind) (kinds : List BufferKind) :
    listText [] ≠ listText (kind :: kinds) := by
  intro same
  rw [listText_cons] at same
  cases kind <;> simp [listText, text, ← String.toList_inj] at same

/-- Lists of kinds are told apart in messages. -/
theorem listText_inj {one other : List BufferKind} :
    listText one = listText other ↔ one = other := by
  constructor
  · intro same
    cases one with
    | nil =>
        cases other with
        | nil => rfl
        | cons kind kinds => exact absurd same (listText_nil_ne kind kinds)
    | cons kind kinds =>
        cases other with
        | nil => exact absurd same.symm (listText_nil_ne kind kinds)
        | cons kind' kinds' =>
            rw [listText_cons, listText_cons, String.append_right_inj] at same
            obtain ⟨rfl, later⟩ := eq_of_text_append same
            rw [listEnd_injective later]
  · rintro rfl
    rfl

end BufferKind

namespace FrameError

def form : FrameError → MessageForm
  | .stillBusy _ => .stillBusy
  | .bufferTooSmall kind _ _ => .bufferTooSmall kind
  | .driver _ _ => .driver
  | .assembler _ => .assembler

/-- What a message says behind its first words, if `beneath` are the texts beneath the error. -/
def remainder (beneath : List String) : FrameError → String
  | .stillBusy attempts => toString attempts.toNat ++ " begin frame attempts"
  | .bufferTooSmall _ size capacity =>
      " buffer too small: " ++ (toString size ++ (" bytes for a capacity of " ++ toString capacity))
  | .driver step status => step.text ++ (": " ++ status.text)
  | .assembler _ => String.intercalate ": " beneath

theorem headline_eq (error : FrameError) (beneath : List String) :
    error.headline beneath = error.form.front ++ error.remainder beneath := by
  cases error with
  | stillBusy attempts => exact String.append_assoc
  | bufferTooSmall kind size capacity =>
      unfold headline
      simp only [String.append_assoc]
      rfl
  | driver step status =>
      unfold headline
      simp only [String.append_assoc]
      rfl
  | assembler cause => rfl

theorem sizes_of_remainder {kind : BufferKind} {size capacity size' capacity' : Nat}
    {beneath : List String}
    (same : (bufferTooSmall kind size capacity).remainder beneath =
      (bufferTooSmall kind size' capacity').remainder beneath) :
    size = size' ∧ capacity = capacity' := by
  have numbers : toString size ++ (" bytes for a capacity of " ++ toString capacity) =
      toString size' ++ (" bytes for a capacity of " ++ toString capacity') :=
    (String.append_right_inj _).mp same
  obtain ⟨sizes, rest⟩ := number_append_inj rfl rfl numbers
  exact ⟨sizes, eq_of_toString rest⟩

theorem driver_of_remainder {step step' : DriverStep} {status status' : Status}
    {beneath : List String}
    (same : (driver step status).remainder beneath = (driver step' status').remainder beneath) :
    step = step' ∧ status = status' := by
  have characters : step.text.toList ++ (": " ++ status.text).toList =
      step'.text.toList ++ (": " ++ status'.text).toList := by
    rw [← String.toList_append, ← String.toList_append]
    exact congrArg String.toList same
  have lengths : (": " ++ status.text).toList.length = (": " ++ status'.text).toList.length := by
    simp only [String.toList_append, List.length_append, Status.length_text]
  -- Statuses are written at one length, so the call in front of them is found from behind.
  obtain ⟨steps, statuses⟩ := List.append_inj' characters lengths
  exact ⟨DriverStep.text_injective (String.toList_inj.mp steps),
    Status.text_injective ((String.append_right_inj _).mp (String.toList_inj.mp statuses))⟩

/-- An error that is no assembler's failure is read back from its message. -/
theorem eq_of_message {one other : FrameError} (plain : one.cause? = none)
    (same : one.message = other.message) : one = other := by
  rw [message, message, headline_eq, headline_eq] at same
  have form := MessageForm.eq_of_append same
  rw [form, String.append_right_inj] at same
  cases one with
  | stillBusy attempts =>
      cases other with
      | stillBusy attempts' =>
          have numbers := eq_of_toString ((String.append_left_inj _).mp same)
          rw [UInt32.toNat_inj.mp numbers]
      | _ => cases form
  | bufferTooSmall kind size capacity =>
      cases other with
      | bufferTooSmall kind' size' capacity' =>
          cases form
          obtain ⟨rfl, rfl⟩ := sizes_of_remainder same
          rfl
      | _ => cases form
  | driver step status =>
      cases other with
      | driver step' status' =>
          obtain ⟨rfl, rfl⟩ := driver_of_remainder same
          rfl
      | _ => cases form
  | assembler cause => cases plain

end FrameError

/-- An error that is no assembler's failure is known by its message, which no other error has,
whatever an assembler says, and a status is known by its digits. -/
theorem messages_identify_errors :
    (∀ one other : FrameError, one.cause? = none → other.cause? = none →
      (one.message = other.message ↔ one = other)) ∧
    (∀ (cause : Cause) (error : FrameError), error.cause? = none →
      (FrameError.assembler cause).message ≠ error.message) ∧
    ∀ status : Status, ∃ digits, status.WrittenWith digits := by
  refine ⟨fun one other plain _ => ?_, fun cause error plain same => ?_,
    Status.exists_writtenWith⟩
  · constructor
    · exact FrameError.eq_of_message plain
    · rintro rfl
      rfl
  · rw [FrameError.eq_of_message plain same.symm] at plain
    cases plain

theorem crossed_sizes_are_identified :
    let small : FrameError := .bufferTooSmall .bitstream 1 11
    let large : FrameError := .bufferTooSmall .bitstream 11 1
    small.cause? = none ∧ large.cause? = none ∧ small.message ≠ large.message ∧
      (FrameError.assembler (.message large.message)).message ≠ large.message := by
  obtain ⟨identified, apart, _⟩ := messages_identify_errors
  refine ⟨rfl, rfl, ?_, apart _ _ rfl⟩
  intro same
  cases (identified _ _ rfl rfl).mp same

end HardwareDecode
