import LabelPress.Proofs.Number.Numeral
import LabelPress.Proofs.Number.Order

/-!
# Numbers as integers

What a text that is a number is as an integer.  Main statement: the integer is made by the
digits before the point, and it is the number without its fraction exactly if neither an
exponent nor the rounding to a double has moved the number away from these digits.  Without
an exponent it is always what is left of the number that the text writes, and fifteen digits
are few enough for the double as well.
-/

namespace LabelPress

/-- A rational number without its fraction. -/
def truncated (x : ℚ) : Int :=
  if x < 0 then ⌈x⌉ else ⌊x⌋

/-- The sign of a number does not matter for its fraction. -/
theorem truncated_ite
    {x : ℚ}
    (nonnegative : 0 ≤ x)
    (negative : Bool) :
    truncated (if negative then -x else x) = if negative then -(⌊x⌋₊ : Int) else ⌊x⌋₊ := by
  rw [truncated, Int.natCast_floor_eq_floor nonnegative]
  cases negative with
  | false => exact if_neg (not_lt.2 nonnegative)
  | true =>
      simp only [if_true, Int.ceil_neg]
      split
      · rfl
      · obtain rfl : x = 0 := by linarith
        simp

/-! ## Digits -/

namespace NumberLiteral

variable {text rest : Text} {literal : NumberLiteral}

theorem scanDigits_lt :
    ∀ digit ∈ (scanDigits text).1, digit < 10 := by
  induction text with
  | nil => exact nofun
  | cons c others inductionHypothesis =>
      unfold scanDigits
      split
      · exact nofun
      · rename_i found
        exact List.forall_mem_cons.2 ⟨Text.digitValue?_lt found, inductionHypothesis⟩

theorem scanFraction_lt :
    ∀ digit ∈ (scanFraction text).1, digit < 10 := by
  unfold scanFraction
  split
  · split
    · exact nofun
    · exact scanDigits_lt
  · exact nofun

theorem whole_lt (found : scan? text = some (literal, rest)) :
    ∀ digit ∈ literal.whole, digit < 10 := by
  obtain ⟨_, -, digits, -⟩ := scan?_eq_some_iff.1 found
  have small := @scanDigits_lt (scanSign text).2
  rwa [digits] at small

theorem fraction_lt (found : scan? text = some (literal, rest)) :
    ∀ digit ∈ literal.fraction, digit < 10 := by
  obtain ⟨afterWhole, -, -, -, digits, -⟩ := scan?_eq_some_iff.1 found
  rw [← digits]
  exact scanFraction_lt

/-! ## The integer of a literal -/

/-- The integer that the digits before the point make. -/
def integer (literal : NumberLiteral) : Int :=
  if literal.negative then
    -(Numeral.value literal.whole : Int)
  else
    Numeral.value literal.whole

/-- Of the literal that a text starts with, only the sign and the first digits count. -/
theorem leadingInteger_of_scan?
    (found : scan? text = some (literal, rest))
    (default : Int) :
    leadingInteger text default =
      if Numeral.digitLimit < literal.whole.length then
        .error .tooManyDigits
      else
        .ok literal.integer := by
  obtain ⟨_, sign, digits, nonempty, -⟩ := scan?_eq_some_iff.1 found
  obtain ⟨first, others, whole⟩ := List.exists_cons_of_ne_nil nonempty
  rw [leadingInteger, sign, digits, integer, whole]
  exact Numeral.read_eq _ _

theorem leadingInteger_eq_ok_iff
    (found : scan? text = some (literal, rest))
    (default : Int)
    {n : Int} :
    leadingInteger text default = .ok n ↔
      literal.whole.length ≤ Numeral.digitLimit ∧ literal.integer = n := by
  rw [leadingInteger_of_scan? found]
  split
  · rename_i long
    exact iff_of_false nofun fun short => absurd short.1 (not_le.2 long)
  · rename_i short
    simp [not_lt.1 short]

theorem integer_eq_truncated_iff
    {x : ℚ}
    (nonnegative : 0 ≤ x) :
    literal.integer = truncated (if literal.negative then -x else x) ↔
      (Numeral.value literal.whole : ℚ) ≤ x ∧ x < Numeral.value literal.whole + 1 := by
  rw [truncated_ite nonnegative, ← Nat.floor_eq_iff nonnegative, integer]
  cases literal.negative <;> simp [eq_comm]

/-! ## Literals without an exponent -/

/-- Without an exponent, a literal denotes a number between its integer and the next one. -/
theorem size_bounds
    (found : scan? text = some (literal, rest))
    (plain : literal.power = 0) :
    (Numeral.value literal.whole : ℚ) ≤ literal.size ∧
      literal.size + 1 / 10 ^ literal.fraction.length ≤ Numeral.value literal.whole + 1 := by
  have places : (0 : ℚ) < 10 ^ literal.fraction.length := by positivity
  have small := Numeral.value_lt_pow (fraction_lt found)
  have small' : (Numeral.value literal.fraction : ℚ) + 1 ≤ 10 ^ literal.fraction.length := by
    exact_mod_cast small
  have nonnegative : (0 : ℚ) ≤ Numeral.value literal.fraction := Nat.cast_nonneg _
  rw [size_of_power_eq_zero plain, Numeral.value_append]
  push_cast
  constructor
  · rw [le_div_iff₀ places]
    linarith
  · rw [← add_div, div_le_iff₀ places]
    linarith

/-- Without an exponent, the integer is the number that the text writes without its fraction. -/
theorem integer_eq_truncated_exact
    (found : scan? text = some (literal, rest))
    (plain : literal.power = 0) :
    literal.integer = truncated literal.exact := by
  obtain ⟨lower, upper⟩ := size_bounds found plain
  have place : (0 : ℚ) < 1 / 10 ^ literal.fraction.length := by positivity
  exact (integer_eq_truncated_iff literal.size_nonneg).2 ⟨lower, by linarith⟩

end NumberLiteral

/-! ## The double of a literal -/

namespace Double

theorem abs_value (double : Double) :
    |double.value| = double.magnitude := by
  have size := abs_of_nonneg double.magnitude_nonneg
  rw [value]
  split
  · rw [abs_neg, size]
  · exact size

/-- A number is not rounded up to a bound from which it is far enough away. -/
theorem rounded_lt_of_gap
    {x gap bound : ℚ}
    (nonnegative : 0 ≤ x)
    (one : 1 ≤ bound)
    (apart : x + gap ≤ bound)
    (wide : bound ≤ 2 ^ 53 * gap) :
    rounded x < bound := by
  rcases nonnegative.eq_or_lt with rfl | positive
  · rw [rounded_zero]
    linarith
  have close := (abs_le.1 (abs_rounded_sub_le nonnegative)).2
  have step : 1 / 2 * 2 ^ gridExponent x < gap := by
    rcases le_or_gt (gridExponent x) (-1074) with least | coarse
    · have fine : (2 : ℚ) ^ gridExponent x ≤ 2 ^ (-53 : Int) :=
        zpow_le_zpow_right₀ one_le_two (by omega)
      norm_num at fine
      linarith
    · have many := le_div_grid positive coarse
      rw [le_div_iff₀ (zpow_pos two_pos _)] at many
      linarith
  linarith

end Double

namespace NumberLiteral

variable {text rest : Text} {literal : NumberLiteral}

/-- A literal of fifteen digits without an exponent is not rounded to another integer. -/
theorem rounded_size_bounds
    (found : scan? text = some (literal, rest))
    (plain : literal.power = 0)
    (short : literal.whole.length + literal.fraction.length ≤ 15) :
    (Numeral.value literal.whole : ℚ) ≤ Double.rounded literal.size ∧
      Double.rounded literal.size < Numeral.value literal.whole + 1 := by
  obtain ⟨lower, upper⟩ := size_bounds found plain
  have small : Numeral.value literal.whole + 1 ≤ 10 ^ literal.whole.length :=
    Numeral.value_lt_pow (whole_lt found)
  have digits :
      (Numeral.value literal.whole + 1) * 10 ^ literal.fraction.length ≤ 2 ^ 53 :=
    calc (Numeral.value literal.whole + 1) * 10 ^ literal.fraction.length
        ≤ 10 ^ literal.whole.length * 10 ^ literal.fraction.length :=
          Nat.mul_le_mul_right _ small
      _ = 10 ^ (literal.whole.length + literal.fraction.length) := (pow_add _ _ _).symm
      _ ≤ 10 ^ 15 := Nat.pow_le_pow_right (by decide) short
      _ ≤ 2 ^ 53 := by decide
  constructor
  · have places : 1 ≤ 10 ^ literal.fraction.length := Nat.one_le_pow _ _ (by decide)
    have fits : Numeral.value literal.whole < 2 ^ 53 := by nlinarith
    rw [← Double.rounded_natCast fits]
    exact Double.rounded_mono (Nat.cast_nonneg _) lower
  · refine Double.rounded_lt_of_gap literal.size_nonneg ?_ upper ?_
    · have natural : (0 : ℚ) ≤ Numeral.value literal.whole := Nat.cast_nonneg _
      linarith
    · rw [mul_one_div, le_div_iff₀ (by positivity)]
      exact_mod_cast digits

end NumberLiteral

open NumberLiteral

/--
A text that is a number is read as the integer of its digits before the point, whatever the
default is.  This integer is the number without its fraction exactly if the number has not
left the interval behind these digits; that happens by an exponent or by rounding only.
-/
theorem leadingInteger_eq_truncated_iff
    {text : Text}
    {number : Double}
    (parsed : parseNumber? text = some number)
    (finite : number.isFinite = true)
    (default : Int) :
    ∃ literal : NumberLiteral, scan? text = some (literal, []) ∧
      leadingInteger text default =
        (if Numeral.digitLimit < literal.whole.length then
          .error .tooManyDigits
        else
          .ok literal.integer) ∧
      (leadingInteger text default = .ok (truncated number.value) ↔
        literal.whole.length ≤ Numeral.digitLimit ∧
          (Numeral.value literal.whole : ℚ) ≤ |number.value| ∧
            |number.value| < Numeral.value literal.whole + 1) ∧
      (literal.power = 0 →
        literal.integer = truncated literal.exact ∧
          (literal.whole.length + literal.fraction.length ≤ 15 →
            leadingInteger text default = .ok (truncated number.value))) := by
  obtain ⟨literal, found, rfl⟩ := parseNumber?_eq_some_iff.1 parsed
  have nearest := literal.isNearest_value
  have exactly :
      leadingInteger text default = .ok (truncated literal.value.value) ↔
        literal.whole.length ≤ Numeral.digitLimit ∧
          (Numeral.value literal.whole : ℚ) ≤ |literal.value.value| ∧
            |literal.value.value| < Numeral.value literal.whole + 1 := by
    rw [leadingInteger_eq_ok_iff found, Double.abs_value,
      ← integer_eq_truncated_iff (Double.magnitude_nonneg _), Double.value,
      nearest.isNegative_eq]
  refine ⟨literal, found, leadingInteger_of_scan? found default, exactly, fun plain => ?_⟩
  refine ⟨integer_eq_truncated_exact found plain, fun short => exactly.2 ⟨?_, ?_⟩⟩
  · exact (by omega : literal.whole.length ≤ 15).trans (by decide)
  · rw [Double.abs_value, nearest.magnitude_eq (nearest.isFinite_iff.1 finite)]
    exact rounded_size_bounds found plain short

theorem leadingInteger_eq_truncated_iff_negative :
    let text : Text := "-007.99e0".toList
    let number : Double := .ofDecimal true 799 (-2)
    parseNumber? text = some number ∧ number.isFinite = true ∧
      truncated number.value = -7 ∧ leadingInteger text 1 = .ok (-7) := by
  intro text number
  have parsed : parseNumber? text = some number := by decide +kernel
  have finite : number.isFinite = true := by decide +kernel
  have read : leadingInteger text 1 = .ok (-7) := by decide +kernel
  have scanned : scan? text = some (⟨true, [0, 0, 7], [9, 9], false, [0]⟩, []) := rfl
  obtain ⟨literal, found, -, -, plain⟩ := leadingInteger_eq_truncated_iff parsed finite 1
  cases scanned.symm.trans found
  have same := (plain rfl).2 (by decide)
  rw [read, Except.ok.injEq] at same
  exact ⟨parsed, finite, same.symm, read⟩

/-- The digits in front of an exponent are not the number. -/
theorem leadingInteger_of_exponent :
    let number : Double := .ofDecimal false 1 3
    parseNumber? "1e3".toList = some number ∧ number.isFinite = true ∧
      truncated number.value = 1000 ∧ leadingInteger "1e3".toList 0 = .ok 1 := by
  intro number
  have nearest := Double.isNearest_ofDecimal false 1 3
  have finite : number.isFinite = true := by decide +kernel
  have value : number.value = (1000 : Nat) := by
    have thousand : ((1 : Nat) : ℚ) * 10 ^ (3 : Int) = (1000 : Nat) := by norm_num
    rw [Double.value, nearest.isNegative_eq,
      nearest.magnitude_eq (nearest.isFinite_iff.1 finite), thousand,
      Double.rounded_natCast (by norm_num)]
    rfl
  refine ⟨by decide +kernel, finite, ?_, by decide +kernel⟩
  rw [value]
  norm_num [truncated]

end LabelPress
