import LabelPress.Number.Literal
import LabelPress.Proofs.Number.Double

/-!
# Decimals among the doubles

The rational number that a number literal denotes, and the double that it is read as.  Main
statement: a decimal is read as the double nearest to it, and as an infinity exactly if it
lies at or beyond the half way point behind the greatest double.

Decimals far beyond the doubles, on either side, are read without exact arithmetic.  For them
the number of their digits decides, and it decides as rounding would.
-/

namespace LabelPress
namespace Double

variable {significand : Nat} {x : ℚ}

/-- This power of ten lies beyond all doubles. -/
theorem overflowBound_le_pow :
    overflowBound ≤ (10 : ℚ) ^ (310 : Int) := by
  have powers : (2 : ℚ) ^ (1024 : Nat) ≤ 10 ^ (310 : Nat) := by
    exact_mod_cast (by decide +kernel : 2 ^ 1024 ≤ 10 ^ 310)
  have top := overflowBound_lt_top.le
  exact top.trans (by exact_mod_cast powers)

/-- Below half of the least double that is not zero, all numbers are rounded to zero. -/
theorem rounded_eq_zero
    (nonnegative : 0 ≤ x)
    (tiny : x < 2 ^ (-1075 : Int)) :
    rounded x = 0 := by
  rcases nonnegative.eq_or_lt with rfl | positive
  · exact rounded_zero
  have log : Int.log 2 x < -1075 :=
    (Int.lt_zpow_iff_log_lt one_lt_two positive).1 (by exact_mod_cast tiny)
  have least : gridExponent x = -1074 := by
    unfold gridExponent
    omega
  have half : (2 : ℚ) ^ (-1075 : Int) = 1 / 2 * 2 ^ (-1074 : Int) := by
    rw [(by norm_num : (-1075 : Int) = -1 + -1074), zpow_add₀ two_ne_zero]
    norm_num
  have below : x / 2 ^ (-1074 : Int) < 1 / 2 := by
    rw [div_lt_iff₀ (zpow_pos two_pos _), ← half]
    exact tiny
  have floor : ⌊x / 2 ^ (-1074 : Int)⌋₊ = 0 := Nat.floor_eq_zero.2 (by linarith)
  have steps : roundRational .toEven (x / 2 ^ (-1074 : Int)) = 0 := by
    rw [roundRational, floor, Nat.cast_zero, sub_zero, if_pos below]
  rw [rounded, least, steps, Nat.cast_zero, zero_mul]

/-- This power of ten is rounded to zero. -/
theorem pow_lt_least :
    (10 : ℚ) ^ (-331 : Int) < 2 ^ (-1075 : Int) := by
  have powers : (2 : ℚ) ^ (1075 : Nat) < 10 ^ (331 : Nat) := by
    exact_mod_cast (by decide +kernel : 2 ^ 1075 < 10 ^ 331)
  rw [(by norm_num : (-331 : Int) = -((331 : Nat) : Int)),
    (by norm_num : (-1075 : Int) = -((1075 : Nat) : Int)), zpow_neg, zpow_neg, zpow_natCast,
    zpow_natCast]
  exact inv_strictAnti₀ (by positivity) powers

/-- A positive number lies between the powers of ten that its digits count. -/
theorem digits_bounds
    (positive : significand ≠ 0) :
    (10 : ℚ) ^ (((Nat.toDigits 10 significand).length : Int) - 1) ≤ significand ∧
      (significand : ℚ) < 10 ^ ((Nat.toDigits 10 significand).length : Int) := by
  have written : 0 < (Nat.toDigits 10 significand).length :=
    List.length_pos_iff.2 Nat.toDigits_ne_nil
  constructor
  · obtain ⟨others, count⟩ := Nat.exists_eq_add_one.2 written
    have lower : 10 ^ others ≤ significand := by
      rcases Nat.eq_zero_or_pos others with rfl | more
      · exact Nat.one_le_iff_ne_zero.2 positive
      · rw [← not_lt, ← Nat.length_toDigits_le_iff (by decide) more]
        omega
    rw [count, Nat.cast_add_one, add_sub_cancel_right, zpow_natCast]
    exact_mod_cast lower
  · have upper := (Nat.length_toDigits_le_iff (by decide) written).1 le_rfl
    rw [zpow_natCast]
    exact_mod_cast upper

/-- A decimal is read as the nearest double. -/
theorem isNearest_ofDecimal
    (negative : Bool)
    (significand : Nat)
    (exponent : Int) :
    IsNearest negative (significand * 10 ^ exponent)
      (ofDecimal negative significand exponent) := by
  unfold ofDecimal
  split
  · rename_i nothing
    rw [nothing, Nat.cast_zero, zero_mul]
    exact .finite overflowBound_pos rfl rfl (by simp [zero, magnitude])
  rename_i positive
  obtain ⟨lower, upper⟩ := digits_bounds positive
  generalize ((Nat.toDigits 10 significand).length : Int) = digits at lower upper
  have power : (0 : ℚ) < 10 ^ exponent := by positivity
  dsimp only
  split
  · rename_i long
    refine .infinite (overflowBound_le_pow.trans ?_)
    calc (10 : ℚ) ^ (310 : Int) ≤ 10 ^ (digits - 1 + exponent) :=
          zpow_le_zpow_right₀ (by norm_num) (by omega)
      _ = 10 ^ (digits - 1) * 10 ^ exponent := zpow_add₀ (by norm_num) _ _
      _ ≤ significand * 10 ^ exponent := mul_le_mul_of_nonneg_right lower power.le
  split
  · rename_i short
    have tiny : (significand : ℚ) * 10 ^ exponent < 2 ^ (-1075 : Int) := by
      refine lt_of_le_of_lt ?_ pow_lt_least
      calc (significand : ℚ) * 10 ^ exponent ≤ 10 ^ digits * 10 ^ exponent :=
            mul_le_mul_of_nonneg_right upper.le power.le
        _ = 10 ^ (digits + exponent) := (zpow_add₀ (by norm_num) _ _).symm
        _ ≤ 10 ^ (-331 : Int) := zpow_le_zpow_right₀ (by norm_num) (by omega)
    have small : (2 : ℚ) ^ (-1075 : Int) ≤ 1 := zpow_le_one_of_nonpos₀ one_le_two (by norm_num)
    have one := lt_overflowBound_of_short (n := 1) (by norm_num)
    rw [Nat.cast_one] at one
    refine .finite (by linarith) rfl rfl ?_
    rw [rounded_eq_zero (by positivity) tiny]
    simp [zero, magnitude]
  · have quotient := scaled_quotient 10 significand exponent
    rw [Nat.cast_ofNat] at quotient
    rw [← quotient]
    exact isNearest_nearest negative _ (Nat.pow_pos (by decide))

end Double

namespace NumberLiteral

/-- The number that a literal denotes without its sign. -/
def size (literal : NumberLiteral) : ℚ :=
  (Numeral.value (literal.whole ++ literal.fraction) : ℚ) *
    10 ^ (literal.power - literal.fraction.length)

/-- The number that a literal denotes. -/
def exact (literal : NumberLiteral) : ℚ :=
  if literal.negative then -literal.size else literal.size

theorem size_nonneg (literal : NumberLiteral) :
    0 ≤ literal.size := by
  unfold size
  positivity

/-- Without an exponent, a literal is a quotient by the power of ten that its places make. -/
theorem size_of_power_eq_zero
    {literal : NumberLiteral}
    (plain : literal.power = 0) :
    literal.size =
      (Numeral.value (literal.whole ++ literal.fraction) : ℚ) /
        (10 ^ literal.fraction.length : Nat) := by
  rw [size, plain, zero_sub, zpow_neg, zpow_natCast, ← div_eq_mul_inv]
  push_cast
  rfl

/-- A literal is read as the nearest double to its number. -/
theorem isNearest_value (literal : NumberLiteral) :
    Double.IsNearest literal.negative literal.size literal.value :=
  Double.isNearest_ofDecimal _ _ _

end NumberLiteral

/-- A text starts with a number that lies beyond all doubles. -/
def StartsBeyondDoubles (text : Text) : Prop :=
  ∃ literal rest,
    NumberLiteral.scan? text = some (literal, rest) ∧ Double.overflowBound ≤ literal.size

theorem isFinite_leadingNumber {text : Text} :
    (leadingNumber text).isFinite = true ↔ ¬ StartsBeyondDoubles text := by
  unfold leadingNumber StartsBeyondDoubles
  split
  · rename_i literal rest found
    simp [found, literal.isNearest_value.isFinite_iff]
  · rename_i missing
    refine iff_of_true rfl ?_
    rintro ⟨literal, rest, found, -⟩
    cases missing.symm.trans found

end LabelPress
