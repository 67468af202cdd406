/-!
# Numeric faults

The ways in which arithmetic and the writing of numbers can fail.
-/

namespace LabelPress

/-- Why a number could not be computed, read or written. -/
inductive NumericFault where
  /-- The result lies beyond the numbers that can be represented. -/
  | overflow
  /-- The operand is not a number. -/
  | notANumber
  /-- The divisor is zero. -/
  | divisionByZero
  /-- An integer has more digits than are read or written. -/
  | tooManyDigits
  /-- More decimal places are asked for than can be written. -/
  | tooManyPlaces
  /-- A numeral is to be padded to more characters than can be kept. -/
  | tooLong
deriving DecidableEq, Repr

end LabelPress
