import LabelPress.Number.Rounding
import Mathlib.Algebra.Order.Floor.Div
import Mathlib.Algebra.Order.Floor.Semifield
import Mathlib.Data.Rat.Floor
import Mathlib.Tactic.FieldSimp
import Mathlib.Tactic.Linarith
import Mathlib.Tactic.Ring

/-!
# Rounding rationals

Rounding a quotient of natural numbers depends only on the rational that they make.
Main statements: rounding is monotone, keeps integers and is never off by more than a
half.
-/

namespace LabelPress

/-- The integer nearest to a rational that is not negative. -/
def roundRational
    (tie : Tie)
    (x : ℚ) : Nat :=
  if x - ⌊x⌋₊ < 1 / 2 then
    ⌊x⌋₊
  else if 1 / 2 < x - ⌊x⌋₊ then
    ⌊x⌋₊ + 1
  else
    match tie with
    | .toEven => ⌊x⌋₊ + ⌊x⌋₊ % 2
    | .awayFromZero => ⌊x⌋₊ + 1

/-- Rounding a quotient rounds the rational that it denotes. -/
theorem roundQuotient_eq
    (tie : Tie)
    (numerator : Nat)
    {denominator : Nat}
    (positive : 0 < denominator) :
    roundQuotient tie numerator denominator =
      roundRational tie ((numerator : ℚ) / denominator) := by
  have positive' : (0 : ℚ) < denominator := by exact_mod_cast positive
  have whole : ⌊(numerator : ℚ) / denominator⌋₊ = numerator / denominator :=
    Nat.floor_div_eq_div numerator denominator
  have rest :
      (numerator : ℚ) / denominator - (numerator / denominator : Nat) =
        (numerator % denominator : Nat) / denominator := by
    have parts :
        (numerator : ℚ) =
          denominator * (numerator / denominator : Nat) + (numerator % denominator : Nat) := by
      exact_mod_cast (Nat.div_add_mod numerator denominator).symm
    rw [sub_eq_iff_eq_add, div_eq_iff positive'.ne', add_mul, div_mul_cancel₀ _ positive'.ne']
    linarith
  have below :
      ((numerator % denominator : Nat) : ℚ) / denominator < 1 / 2 ↔
        2 * (numerator % denominator) < denominator := by
    rw [div_lt_div_iff₀ positive' two_pos, one_mul, mul_comm]
    exact_mod_cast Iff.rfl
  have above :
      1 / 2 < ((numerator % denominator : Nat) : ℚ) / denominator ↔
        denominator < 2 * (numerator % denominator) := by
    rw [div_lt_div_iff₀ two_pos positive', one_mul, mul_comm]
    exact_mod_cast Iff.rfl
  cases tie <;>
    simp only [roundQuotient, roundRational, whole, rest, below, above]

/-- Half way and beyond the integer part is rounded up. -/
theorem roundRational_awayFromZero (x : ℚ) :
    roundRational .awayFromZero x = if 1 / 2 ≤ x - ⌊x⌋₊ then ⌊x⌋₊ + 1 else ⌊x⌋₊ := by
  unfold roundRational
  split
  · rename_i below
    rw [if_neg (not_le.2 below)]
  · rename_i above
    rw [if_pos (not_lt.1 above)]
    split <;> rfl

theorem roundRational_natCast
    (tie : Tie)
    (n : Nat) :
    roundRational tie n = n := by
  simp [roundRational]

variable {x y : ℚ}

/-- A rounded number is off by a half at most. -/
theorem abs_roundRational_sub_le
    (tie : Tie)
    (nonnegative : 0 ≤ x) :
    |(roundRational tie x : ℚ) - x| ≤ 1 / 2 := by
  have lower := Nat.floor_le nonnegative
  have upper := Nat.lt_floor_add_one x
  have odd : ⌊x⌋₊ % 2 ≤ 1 := by omega
  have odd' : ((⌊x⌋₊ % 2 : Nat) : ℚ) ≤ 1 := by exact_mod_cast odd
  have even' : (0 : ℚ) ≤ (⌊x⌋₊ % 2 : Nat) := Nat.cast_nonneg _
  rw [abs_le]
  unfold roundRational
  split
  · constructor <;> linarith
  · split
    · push_cast
      constructor <;> linarith
    · cases tie with
      | toEven =>
          push_cast at odd' even' ⊢
          constructor <;> linarith
      | awayFromZero =>
          push_cast
          constructor <;> linarith

/-- Rounding is monotone: equal numbers are the only ones close enough to change order. -/
theorem roundRational_mono
    (tie : Tie)
    (nonnegative : 0 ≤ x)
    (le : x ≤ y) :
    roundRational tie x ≤ roundRational tie y := by
  by_contra greater
  have step : roundRational tie y + 1 ≤ roundRational tie x := by omega
  have step' : (roundRational tie y : ℚ) + 1 ≤ roundRational tie x := by exact_mod_cast step
  have nearX := abs_le.1 (abs_roundRational_sub_le tie nonnegative)
  have nearY := abs_le.1 (abs_roundRational_sub_le tie (nonnegative.trans le))
  have equal : x = y := by linarith
  subst equal
  exact greater le_rfl

theorem roundRational_le
    (tie : Tie)
    {bound : Nat}
    (nonnegative : 0 ≤ x)
    (le : x ≤ bound) :
    roundRational tie x ≤ bound := by
  simpa [roundRational_natCast] using roundRational_mono tie nonnegative le

theorem le_roundRational
    (tie : Tie)
    {bound : Nat}
    (le : (bound : ℚ) ≤ x) :
    bound ≤ roundRational tie x := by
  simpa [roundRational_natCast] using
    roundRational_mono tie (Nat.cast_nonneg bound) le

/-- A quotient rounded up. -/
theorem natCeil_div
    (numerator : Nat)
    {denominator : Nat}
    (positive : 0 < denominator) :
    ⌈(numerator : ℚ) / denominator⌉₊ = (numerator + denominator - 1) / denominator := by
  have positive' : (0 : ℚ) < denominator := by exact_mod_cast positive
  apply eq_of_forall_ge_iff
  intro bound
  rw [Nat.ceil_le, div_le_iff₀ positive', ← Nat.ceilDiv_eq_add_pred_div,
    ceilDiv_le_iff_le_mul positive, mul_comm]
  exact_mod_cast Iff.rfl

end LabelPress
