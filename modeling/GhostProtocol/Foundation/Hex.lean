import Mathlib.Algebra.Group.Nat.Defs
import Mathlib.Data.List.Basic

/-!
# Hexadecimal numbers of a least width

A number is printed with lower-case hexadecimal digits and leading zeros up to
a least width.  What is printed can be read back, so numbers printed alike are
equal, and a number that fits into the width is printed with exactly that
width.
-/

namespace Foundation
namespace Hex

/-- The digits of a number with leading zeros up to a least width. -/
def format (width value : Nat) : List Char :=
  (Nat.toDigits 16 value).leftpad width '0'

/-- The value of a lower-case hexadecimal digit. -/
def digitValue (char : Char) : Nat :=
  if char.toNat < 97 then char.toNat - 48 else char.toNat - 87

/-- The value of a digit string. -/
def value (digits : List Char) : Nat :=
  digits.foldl (fun number char => number * 16 + digitValue char) 0

/-- A digit is read back. -/
theorem digitValue_digitChar
    {digit : Nat}
    (small : digit < 16) :
    digitValue (Nat.digitChar digit) = digit := by
  revert digit
  decide

/-- One more digit counts once. -/
theorem value_append (digits : List Char) (char : Char) :
    value (digits ++ [char]) = value digits * 16 + digitValue char := by
  rw [value, List.foldl_append]
  rfl

/-- The digits of a number are read back. -/
theorem value_toDigits (number : Nat) :
    value (Nat.toDigits 16 number) = number := by
  induction number using Nat.strongRecOn with
  | ind number inductionHypothesis =>
      by_cases small : number < 16
      · rw [Nat.toDigits_of_lt_base small, ← List.nil_append [_],
          value_append, digitValue_digitChar small]
        exact Nat.zero_add number
      · have large := Nat.not_lt.mp small
        rw [Nat.toDigits_of_base_le (by decide) large, value_append,
          inductionHypothesis (number / 16) (by omega),
          digitValue_digitChar (Nat.mod_lt number (by decide))]
        omega

/-- Leading zeros do not count. -/
theorem value_leftpad (width : Nat) (digits : List Char) :
    value (digits.leftpad width '0') = value digits := by
  have zeros : ∀ count, value (List.replicate count '0') = 0 := by
    intro count
    induction count with
    | zero => rfl
    | succ count inductionHypothesis =>
        rw [List.replicate_succ', value_append, inductionHypothesis]
        rfl
  rw [List.leftpad, value, List.foldl_append]
  exact congrArg (fun start => digits.foldl
    (fun number char => number * 16 + digitValue char) start)
    (zeros (width - digits.length))

/-- A printed number is read back. -/
@[simp] theorem value_format (width number : Nat) :
    value (format width number) = number := by
  rw [format, value_leftpad, value_toDigits]

/-- Numbers printed alike are equal. -/
theorem format_injective (width : Nat) :
    Function.Injective (format width) := by
  intro first second equal
  rw [← value_format width first, equal, value_format]

/-- A number that fits into the width is printed with exactly that width. -/
theorem length_format
    {width number : Nat}
    (positive : 0 < width)
    (fits : number < 16 ^ width) :
    (format width number).length = width := by
  rw [format, List.length_leftpad]
  exact Nat.max_eq_left ((Nat.length_toDigits_le_iff (by decide) positive).mpr
    fits)

end Hex
end Foundation
