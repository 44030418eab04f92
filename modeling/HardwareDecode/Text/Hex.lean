/-
Module: HardwareDecode.Text.Hex
Purpose: Numbers written in lowercase hexadecimal with a fixed count of digits.
Main exports: Hex.digits, Hex.padded
-/

namespace HardwareDecode.Hex

/-- The lowest `width` hexadecimal digits of `n`, most significant first. -/
def digits : (width n : Nat) → List Char
  | 0, _ => []
  | width + 1, n => digits width (n / 16) ++ [Nat.digitChar (n % 16)]

/-- `0x` and exactly `width` lowercase digits. -/
def padded (width n : Nat) : String :=
  "0x" ++ String.ofList (digits width n)

theorem length_digits (width n : Nat) : (digits width n).length = width := by
  induction width generalizing n with
  | zero => rfl
  | succ width inductionHypothesis => simp [digits, inductionHypothesis]

example : padded 8 0x8000000a = "0x8000000a" := by decide

end HardwareDecode.Hex
