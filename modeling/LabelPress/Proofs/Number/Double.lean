import LabelPress.Number.Double
import LabelPress.Proofs.Outcome
import LabelPress.Proofs.Number.Rounding
import Mathlib.Algebra.Order.Field.Power
import Mathlib.Data.Int.Log
import Mathlib.Tactic.GCongr
import Mathlib.Tactic.NormNum

/-!
# Doubles as rationals

The rational that a double denotes, and rounding to doubles as a function of rationals:
the multiple of a power of two that is nearest, where the power leaves 53 bits.  Main
statements: rounding is monotone and keeps the numbers that doubles denote, every
operation gives the rounded exact result, and a result is infinite exactly if it lies at
or beyond the half way point behind the greatest double.
-/

namespace LabelPress
namespace Double

/-- A power as the quotient that the operations compute with. -/
theorem zpow_eq_div
    (base : ℚ)
    (exponent : Int) :
    base ^ exponent = base ^ exponent.toNat / base ^ (-exponent).toNat := by
  rcases Int.le_total 0 exponent with positive | negative
  · obtain ⟨n, rfl⟩ := Int.eq_ofNat_of_zero_le positive
    simp
  · obtain ⟨n, equal⟩ := Int.eq_ofNat_of_zero_le (Int.neg_nonneg_of_nonpos negative)
    have back : exponent = -(n : Int) := by omega
    subst back
    simp

theorem pow_log2_le
    {n : Nat}
    (positive : 0 < n) :
    (2 : ℚ) ^ n.log2 ≤ n := by
  exact_mod_cast Nat.log2_self_le positive.ne'

theorem lt_pow_log2 (n : Nat) :
    (n : ℚ) < 2 ^ (n.log2 + 1) := by
  exact_mod_cast Nat.lt_log2_self

theorem div_lt_zpow_log2
    (numerator : Nat)
    {denominator : Nat}
    (positive : 0 < denominator) :
    (numerator : ℚ) / denominator <
      2 ^ ((numerator.log2 : Int) - denominator.log2 + 1) := by
  have lower := pow_log2_le positive
  rw [div_lt_iff₀ (by exact_mod_cast positive)]
  calc (numerator : ℚ) < 2 ^ (numerator.log2 + 1) := lt_pow_log2 numerator
    _ = 2 ^ ((numerator.log2 : Int) - denominator.log2 + 1) * 2 ^ denominator.log2 := by
        rw [← zpow_natCast, ← zpow_natCast, ← zpow_add₀ two_ne_zero]
        congr 1
        push_cast
        ring
    _ ≤ _ := by gcongr

theorem zpow_log2_le_div
    {numerator denominator : Nat}
    (positive : 0 < numerator)
    (positive' : 0 < denominator) :
    (2 : ℚ) ^ ((numerator.log2 : Int) - denominator.log2 - 1) ≤ numerator / denominator := by
  have upper := lt_pow_log2 denominator
  rw [le_div_iff₀ (by exact_mod_cast positive')]
  calc (2 : ℚ) ^ ((numerator.log2 : Int) - denominator.log2 - 1) * denominator
      ≤ 2 ^ ((numerator.log2 : Int) - denominator.log2 - 1) *
          2 ^ (denominator.log2 + 1) := by gcongr
    _ = 2 ^ numerator.log2 := by
        rw [← zpow_natCast, ← zpow_natCast, ← zpow_add₀ two_ne_zero]
        congr 1
        push_cast
        ring
    _ ≤ _ := pow_log2_le positive

/-- The binary order is the integer part of the logarithm. -/
theorem binaryOrder_eq_log
    {numerator denominator : Nat}
    (positive : 0 < numerator)
    (positive' : 0 < denominator) :
    binaryOrder numerator denominator = Int.log 2 ((numerator : ℚ) / denominator) := by
  have numeratorPos : (0 : ℚ) < numerator := by exact_mod_cast positive
  have denominatorPos : (0 : ℚ) < denominator := by exact_mod_cast positive'
  have quotientPos : (0 : ℚ) < numerator / denominator := div_pos numeratorPos denominatorPos
  have below := div_lt_zpow_log2 numerator positive'
  have above := zpow_log2_le_div positive positive'
  generalize power_eq : (numerator.log2 : Int) - denominator.log2 = power at below above
  have compared :
      denominator * Nat.pow 2 power.toNat ≤ numerator * Nat.pow 2 (-power).toNat ↔
        (2 : ℚ) ^ power ≤ numerator / denominator := by
    rw [zpow_eq_div, div_le_div_iff₀ (by positivity) denominatorPos, mul_comm]
    exact_mod_cast Iff.rfl
  have atMost : Int.log 2 ((numerator : ℚ) / denominator) < power + 1 :=
    (Int.lt_zpow_iff_log_lt one_lt_two quotientPos).1 (by exact_mod_cast below)
  have atLeast : power - 1 ≤ Int.log 2 ((numerator : ℚ) / denominator) :=
    (Int.zpow_le_iff_le_log one_lt_two quotientPos).1 (by exact_mod_cast above)
  have decided :
      (2 : ℚ) ^ power ≤ numerator / denominator ↔
        power ≤ Int.log 2 ((numerator : ℚ) / denominator) := by
    rw [← Int.zpow_le_iff_le_log one_lt_two quotientPos]
    norm_num
  unfold binaryOrder
  simp only [power_eq, compared, decided]
  split <;> omega

/-- The power of two that doubles near a rational are multiples of. -/
def gridExponent (x : ℚ) : Int :=
  max (-1074) (Int.log 2 x - 52)

/-- The rational of 53 bits nearest to one that is not negative. -/
def rounded (x : ℚ) : ℚ :=
  roundRational .toEven (x / 2 ^ gridExponent x) * 2 ^ gridExponent x

theorem least_le_gridExponent (x : ℚ) :
    -1074 ≤ gridExponent x :=
  le_max_left _ _

variable {x y : ℚ}

theorem gridExponent_mono
    (positive : 0 < x)
    (le : x ≤ y) :
    gridExponent x ≤ gridExponent y := by
  have logs := Int.log_mono_right (b := 2) positive le
  unfold gridExponent
  omega

/-- A rational is less than `2 ^ 53` steps of its grid. -/
theorem div_grid_lt (x : ℚ) :
    x / 2 ^ gridExponent x < 2 ^ 53 := by
  have upper := Int.lt_zpow_succ_log_self one_lt_two x
  rw [div_lt_iff₀ (by positivity), ← zpow_natCast, ← zpow_add₀ two_ne_zero]
  refine lt_of_lt_of_le upper ?_
  refine zpow_le_zpow_right₀ one_le_two ?_
  unfold gridExponent
  omega

/-- Above the least grid a rational is at least `2 ^ 52` steps of its grid. -/
theorem le_div_grid
    (positive : 0 < x)
    (coarse : -1074 < gridExponent x) :
    2 ^ 52 ≤ x / 2 ^ gridExponent x := by
  have lower := Int.zpow_log_le_self one_lt_two positive
  rw [le_div_iff₀ (by positivity), ← zpow_natCast, ← zpow_add₀ two_ne_zero]
  refine le_trans (zpow_le_zpow_right₀ one_le_two ?_) lower
  unfold gridExponent at coarse ⊢
  omega

theorem roundRational_grid_le
    (positive : 0 < x) :
    roundRational .toEven (x / 2 ^ gridExponent x) ≤ 2 ^ 53 := by
  apply roundRational_le .toEven (by positivity)
  exact_mod_cast (div_grid_lt x).le

theorem le_roundRational_grid
    (positive : 0 < x)
    (coarse : -1074 < gridExponent x) :
    2 ^ 52 ≤ roundRational .toEven (x / 2 ^ gridExponent x) := by
  apply le_roundRational .toEven
  exact_mod_cast le_div_grid positive coarse

theorem rounded_nonneg (x : ℚ) :
    0 ≤ rounded x := by
  unfold rounded
  positivity

@[simp] theorem rounded_zero :
    rounded 0 = 0 := by
  simp [rounded, roundRational]

/-- A rounded number is off by half a step of its grid at most. -/
theorem abs_rounded_sub_le (nonnegative : 0 ≤ x) :
    |rounded x - x| ≤ 1 / 2 * 2 ^ gridExponent x := by
  have step : (0 : ℚ) < 2 ^ gridExponent x := zpow_pos two_pos _
  have close := abs_roundRational_sub_le .toEven (x := x / 2 ^ gridExponent x) (by positivity)
  have scaled :
      rounded x - x =
        (roundRational .toEven (x / 2 ^ gridExponent x) - x / 2 ^ gridExponent x) *
          2 ^ gridExponent x := by
    rw [rounded, sub_mul, div_mul_cancel₀ _ step.ne']
  rw [scaled, abs_mul, abs_of_pos step]
  exact mul_le_mul_of_nonneg_right close step.le

/-- Rounding to doubles is monotone within a grid and from one grid to the next. -/
theorem rounded_mono
    (nonnegative : 0 ≤ x)
    (le : x ≤ y) :
    rounded x ≤ rounded y := by
  rcases nonnegative.eq_or_lt with rfl | positive
  · simpa using rounded_nonneg y
  rcases (gridExponent_mono positive le).eq_or_lt with same | coarser
  · unfold rounded
    rw [← same]
    have inner : x / 2 ^ gridExponent x ≤ y / 2 ^ gridExponent x := by gcongr
    have rounds := roundRational_mono .toEven (by positivity) inner
    gcongr
  · have coarse : -1074 < gridExponent y := by
      have least := least_le_gridExponent x
      omega
    have top := roundRational_grid_le positive
    have bottom := le_roundRational_grid (positive.trans_le le) coarse
    calc rounded x ≤ (2 ^ 53 : Nat) * 2 ^ gridExponent x := by
          unfold rounded
          gcongr
      _ = 2 ^ (gridExponent x + 53) := by
          rw [zpow_add₀ two_ne_zero]
          push_cast
          ring
      _ ≤ 2 ^ (gridExponent y + 52) := zpow_le_zpow_right₀ one_le_two (by omega)
      _ = (2 ^ 52 : Nat) * 2 ^ gridExponent y := by
          rw [zpow_add₀ two_ne_zero]
          push_cast
          ring
      _ ≤ rounded y := by
          unfold rounded
          gcongr

/-- The logarithm of a natural number times a power of two. -/
theorem log_mul_zpow
    {significand : Nat}
    (positive : 0 < significand)
    (exponent : Int) :
    Int.log 2 ((significand : ℚ) * 2 ^ exponent) = Nat.log 2 significand + exponent := by
  have lower : ((2 : ℚ)) ^ Nat.log 2 significand ≤ significand := by
    exact_mod_cast Nat.pow_log_le_self 2 positive.ne'
  have upper : (significand : ℚ) < 2 ^ (Nat.log 2 significand + 1) := by
    exact_mod_cast Nat.lt_pow_succ_log_self one_lt_two significand
  have positive' : (0 : ℚ) < significand * 2 ^ exponent := by
    have : (0 : ℚ) < significand := by exact_mod_cast positive
    positivity
  apply le_antisymm
  · apply Int.lt_add_one_iff.1
    apply (Int.lt_zpow_iff_log_lt one_lt_two positive').1
    calc (significand : ℚ) * 2 ^ exponent
        < 2 ^ (Nat.log 2 significand + 1) * 2 ^ exponent := by gcongr
      _ = ((2 : Nat) : ℚ) ^ ((Nat.log 2 significand : Int) + exponent + 1) := by
          rw [← zpow_natCast, ← zpow_add₀ two_ne_zero]
          push_cast
          congr 1
          ring
  · apply (Int.zpow_le_iff_le_log one_lt_two positive').1
    calc ((2 : Nat) : ℚ) ^ ((Nat.log 2 significand : Int) + exponent)
        = 2 ^ Nat.log 2 significand * 2 ^ exponent := by
          rw [Nat.cast_ofNat, zpow_add₀ two_ne_zero, zpow_natCast]
      _ ≤ significand * 2 ^ exponent := by gcongr

/-- Rounding keeps the numbers of 53 bits whose last place doubles can have. -/
theorem rounded_of_short
    {significand : Nat}
    {exponent : Int}
    (short : significand < 2 ^ 53)
    (least : -1074 ≤ exponent) :
    rounded (significand * 2 ^ exponent) = significand * 2 ^ exponent := by
  rcases Nat.eq_zero_or_pos significand with rfl | positive
  · simp
  have bits : Nat.log 2 significand < 53 := Nat.log_lt_of_lt_pow positive.ne' short
  obtain ⟨places, fine⟩ :
      ∃ places : Nat, exponent = places + gridExponent (significand * 2 ^ exponent) := by
    refine ⟨(exponent - gridExponent (significand * 2 ^ exponent)).toNat, ?_⟩
    rw [gridExponent, log_mul_zpow positive]
    omega
  have steps : (significand : ℚ) * 2 ^ exponent / 2 ^ gridExponent (significand * 2 ^ exponent) =
      ((significand * 2 ^ places : Nat) : ℚ) := by
    generalize gridExponent (significand * 2 ^ exponent) = grid at fine
    subst fine
    rw [zpow_add₀ two_ne_zero, ← mul_assoc, mul_div_cancel_right₀ _ (zpow_ne_zero _ two_ne_zero)]
    push_cast
    rfl
  rw [rounded, steps, roundRational_natCast, ← steps,
    div_mul_cancel₀ _ (zpow_ne_zero _ two_ne_zero)]

/-- Rounding keeps integers of 53 bits. -/
theorem rounded_natCast
    {n : Nat}
    (short : n < 2 ^ 53) :
    rounded n = n := by
  have kept : rounded (n * 2 ^ (0 : Int)) = n * 2 ^ (0 : Int) :=
    rounded_of_short short (by decide)
  rwa [zpow_zero, mul_one] at kept

/-- The half way point between the greatest double and the next power of two. -/
def overflowBound : ℚ :=
  (2 ^ 54 - 1) * 2 ^ (970 : Int)

theorem overflowBound_pos :
    0 < overflowBound := by
  unfold overflowBound
  positivity

theorem lt_overflowBound_of_short
    {n : Nat}
    (short : n < 2 ^ 53) :
    (n : ℚ) < overflowBound := by
  have short' : (n : ℚ) < 2 ^ 53 := by exact_mod_cast short
  have power : (1 : ℚ) ≤ 2 ^ (970 : Int) := one_le_zpow₀ one_le_two (by norm_num)
  have bound : (2 ^ 54 - 1 : ℚ) * 1 ≤ overflowBound :=
    mul_le_mul_of_nonneg_left power (by norm_num)
  linarith

theorem zpow_grid :
    (2 : ℚ) ^ (971 : Int) = 2 * 2 ^ (970 : Int) := by
  have exponent : (971 : Int) = 970 + 1 := rfl
  rw [exponent, zpow_add_one₀ two_ne_zero, mul_comm]

theorem zpow_top :
    (2 : ℚ) ^ (1024 : Int) = 2 ^ 53 * 2 ^ (971 : Int) := by
  have exponent : (1024 : Int) = (53 : Nat) + 971 := rfl
  rw [exponent, zpow_add₀ two_ne_zero, zpow_natCast]

/-- The half way point lies half a step before `2 ^ 53` steps of the last grid. -/
theorem overflowBound_eq :
    overflowBound = ((2 ^ 54 - 1 : Nat) : ℚ) / (2 : Nat) * 2 ^ (971 : Int) := by
  rw [overflowBound, zpow_grid]
  generalize (2 : ℚ) ^ (970 : Int) = step
  push_cast
  ring

theorem overflowBound_lt_top :
    overflowBound < 2 ^ (1024 : Int) := by
  rw [overflowBound_eq, zpow_top]
  exact mul_lt_mul_of_pos_right (by norm_num) (zpow_pos two_pos _)

theorem gridExponent_overflowBound :
    gridExponent overflowBound = 971 := by
  have shape : overflowBound = ((2 ^ 54 - 1 : Nat) : ℚ) * 2 ^ (970 : Int) := by
    norm_num [overflowBound]
  have log : Nat.log 2 (2 ^ 54 - 1) = 53 := by
    rw [Nat.log_eq_iff (by norm_num)]
    norm_num
  rw [gridExponent, shape, log_mul_zpow (by norm_num), log]
  norm_num

theorem rounded_overflowBound :
    rounded overflowBound = 2 ^ (1024 : Int) := by
  have tie : roundQuotient .toEven (2 ^ 54 - 1) 2 = 2 ^ 53 := by decide
  have steps : overflowBound / 2 ^ (971 : Int) = ((2 ^ 54 - 1 : Nat) : ℚ) / (2 : Nat) := by
    rw [overflowBound_eq, mul_div_cancel_right₀ _ (zpow_ne_zero _ two_ne_zero)]
  rw [rounded, gridExponent_overflowBound, steps, ← roundQuotient_eq .toEven _ two_pos, tie,
    zpow_top]
  norm_num

/-- On the last grid fewer than `2 ^ 53` steps are left before the half way point. -/
theorem roundRational_lastGrid_lt
    (nonnegative : 0 ≤ x)
    (below : x < overflowBound) :
    (roundRational .toEven (x / 2 ^ (971 : Int)) : ℚ) < 2 ^ 53 := by
  have quotient : x / 2 ^ (971 : Int) < ((2 ^ 54 - 1 : Nat) : ℚ) / (2 : Nat) := by
    rw [div_lt_iff₀ (by positivity), ← overflowBound_eq]
    exact below
  have half : ((2 ^ 54 - 1 : Nat) : ℚ) / (2 : Nat) = 2 ^ 53 - 1 / 2 := by norm_num
  rw [half] at quotient
  have near := abs_le.1
    (abs_roundRational_sub_le .toEven (x := x / 2 ^ (971 : Int)) (by positivity))
  linarith

theorem rounded_lt_top
    (nonnegative : 0 ≤ x)
    (below : x < overflowBound) :
    rounded x < 2 ^ (1024 : Int) := by
  rcases nonnegative.eq_or_lt with rfl | positive
  · simp
  have finer := gridExponent_mono positive below.le
  rw [gridExponent_overflowBound] at finer
  rw [zpow_top]
  rcases finer.eq_or_lt with same | finer
  · rw [rounded, same]
    exact mul_lt_mul_of_pos_right (roundRational_lastGrid_lt nonnegative below)
      (zpow_pos two_pos _)
  · have top : (roundRational .toEven (x / 2 ^ gridExponent x) : ℚ) ≤ 2 ^ 53 := by
      exact_mod_cast roundRational_grid_le positive
    have step : (2 : ℚ) ^ gridExponent x < 2 ^ (971 : Int) :=
      zpow_lt_zpow_right₀ one_lt_two finer
    calc rounded x ≤ 2 ^ 53 * 2 ^ gridExponent x := by
          unfold rounded
          gcongr
      _ < 2 ^ 53 * 2 ^ (971 : Int) := mul_lt_mul_of_pos_left step (by norm_num)

/-- A number is rounded to less than `2 ^ 1024` if it lies before the half way point. -/
theorem rounded_lt_iff
    (nonnegative : 0 ≤ x) :
    rounded x < 2 ^ (1024 : Int) ↔ x < overflowBound := by
  constructor
  · intro small
    by_contra beyond
    have large := rounded_mono overflowBound_pos.le (not_lt.1 beyond)
    rw [rounded_overflowBound] at large
    exact absurd small (not_lt.2 large)
  · intro below
    exact rounded_lt_top nonnegative below

theorem lt_of_rounded_lt
    (nonnegative : 0 ≤ x)
    (below : rounded x < overflowBound) :
    x < overflowBound :=
  (rounded_lt_iff nonnegative).1 (below.trans overflowBound_lt_top)

/-- The size of a finite double. -/
def magnitude : Double → ℚ
  | .finite _ significand exponent _ => significand * 2 ^ exponent
  | _ => 0

theorem magnitude_of_not_isFinite
    {double : Double}
    (beyond : ¬ double.isFinite = true) :
    double.magnitude = 0 := by
  cases double with
  | nan => rfl
  | infinite negative => rfl
  | finite => exact absurd rfl beyond

theorem magnitude_nonneg (double : Double) :
    0 ≤ double.magnitude := by
  cases double with
  | nan => exact le_rfl
  | infinite negative => exact le_rfl
  | finite negative significand exponent canonical =>
      unfold magnitude
      positivity

/-- A canonical significand and exponent stay below `2 ^ 1024`, others reach it. -/
theorem lt_top_iff
    {significand : Nat}
    {exponent : Int}
    (short : significand < 2 ^ 53)
    (normal : exponent = -1074 ∨ 2 ^ 52 ≤ significand) :
    (significand : ℚ) * 2 ^ exponent < 2 ^ (1024 : Int) ↔ exponent ≤ 971 := by
  rw [zpow_top]
  have short' : (significand : ℚ) < 2 ^ 53 := by exact_mod_cast short
  constructor
  · intro small
    by_contra large
    have long : (2 : ℚ) ^ 52 ≤ significand := by
      have : 2 ^ 52 ≤ significand := by omega
      exact_mod_cast this
    have step : (2 : ℚ) * 2 ^ (971 : Int) ≤ 2 ^ exponent := by
      rw [mul_comm, ← zpow_add_one₀ two_ne_zero]
      exact zpow_le_zpow_right₀ one_le_two (by omega)
    have reach : (2 : ℚ) ^ 52 * (2 * 2 ^ (971 : Int)) ≤ significand * 2 ^ exponent := by gcongr
    have same : (2 : ℚ) ^ 52 * (2 * 2 ^ (971 : Int)) = 2 ^ 53 * 2 ^ (971 : Int) := by
      rw [← mul_assoc, ← pow_succ]
    rw [same] at reach
    exact absurd small (not_lt.2 reach)
  · intro small
    have step : (2 : ℚ) ^ exponent ≤ 2 ^ (971 : Int) :=
      zpow_le_zpow_right₀ one_le_two small
    calc (significand : ℚ) * 2 ^ exponent
        ≤ significand * 2 ^ (971 : Int) := mul_le_mul_of_nonneg_left step (Nat.cast_nonneg _)
      _ < 2 ^ 53 * 2 ^ (971 : Int) := mul_lt_mul_of_pos_right short' (zpow_pos two_pos _)

/-- A significand that is rounded up to `2 ^ 53` moves to the next exponent. -/
theorem carry_spec
    {steps : Nat}
    {exponent : Int}
    (top : steps ≤ 2 ^ 53)
    (least : -1074 ≤ exponent)
    (normal : exponent = -1074 ∨ 2 ^ 52 ≤ steps) :
    ∃ significand carried,
      (if steps = 2 ^ 53 then 2 ^ 52 else steps) = significand ∧
        (if steps = 2 ^ 53 then exponent + 1 else exponent) = carried ∧
        significand < 2 ^ 53 ∧ -1074 ≤ carried ∧
        (carried = -1074 ∨ 2 ^ 52 ≤ significand) ∧
        (significand : ℚ) * 2 ^ carried = steps * 2 ^ exponent := by
  by_cases full : steps = 2 ^ 53
  · refine ⟨2 ^ 52, exponent + 1, if_pos full, if_pos full, by norm_num, by omega,
      Or.inr le_rfl, ?_⟩
    rw [full, zpow_add_one₀ two_ne_zero]
    push_cast
    ring
  · exact ⟨steps, exponent, if_neg full, if_neg full, by omega, least, normal, rfl⟩

/-- The steps of the grid that a quotient is rounded to. -/
theorem roundQuotient_grid
    (numerator : Nat)
    {denominator : Nat}
    (positive : 0 < denominator)
    (exponent : Int) :
    roundQuotient .toEven (numerator * 2 ^ (-exponent).toNat)
        (denominator * 2 ^ exponent.toNat) =
      roundRational .toEven ((numerator : ℚ) / denominator / 2 ^ exponent) := by
  rw [roundQuotient_eq _ _ (Nat.mul_pos positive (Nat.pow_pos two_pos)), zpow_eq_div,
    div_div_div_eq]
  push_cast
  rfl

/-- Rounding leaves 53 bits except on the least grid. -/
theorem gridExponent_eq_or_le
    (positive : 0 < x) :
    gridExponent x = -1074 ∨ 2 ^ 52 ≤ roundRational .toEven (x / 2 ^ gridExponent x) := by
  rcases (least_le_gridExponent x).eq_or_lt with least | coarse
  · exact Or.inl least.symm
  · exact Or.inr (le_roundRational_grid positive coarse)

/-- A double is the rounded rational of a sign, or beyond the half way point an infinity. -/
inductive IsNearest
    (negative : Bool)
    (x : ℚ) : Double → Prop where
  /-- Before the half way point there is a finite double. -/
  | finite
      {double : Double}
      (below : x < overflowBound)
      (isFinite_eq : double.isFinite = true)
      (isNegative_eq : double.isNegative = negative)
      (magnitude_eq : double.magnitude = rounded x) :
      IsNearest negative x double
  /-- From the half way point on there is none. -/
  | infinite (beyond : overflowBound ≤ x) :
      IsNearest negative x (.infinite negative)

namespace IsNearest

variable {negative : Bool} {double : Double}

theorem isFinite_iff (nearest : IsNearest negative x double) :
    double.isFinite = true ↔ x < overflowBound := by
  cases nearest with
  | finite below finite _ _ => exact iff_of_true finite below
  | infinite beyond => exact iff_of_false (by simp [isFinite]) (not_lt.2 beyond)

theorem isNegative_eq (nearest : IsNearest negative x double) :
    double.isNegative = negative := by
  cases nearest with
  | finite _ _ sign _ => exact sign
  | infinite _ => rfl

theorem magnitude_eq
    (nearest : IsNearest negative x double)
    (below : x < overflowBound) :
    double.magnitude = rounded x := by
  cases nearest with
  | finite _ _ _ value => exact value
  | infinite beyond => exact absurd below (not_lt.2 beyond)

theorem eq_infinite
    (nearest : IsNearest negative x double)
    (beyond : overflowBound ≤ x) :
    double = .infinite negative := by
  cases nearest with
  | finite below _ _ _ => exact absurd below (not_lt.2 beyond)
  | infinite _ => rfl

theorem ne_nan (nearest : IsNearest negative x double) :
    double ≠ .nan := by
  rintro rfl
  cases nearest with
  | finite _ finite _ _ => cases finite

end IsNearest

/-- The nearest double to a quotient is finite before the half way point. -/
theorem isNearest_nearest
    (negative : Bool)
    (numerator : Nat)
    {denominator : Nat}
    (positive : 0 < denominator) :
    IsNearest negative ((numerator : ℚ) / denominator)
      (nearest negative numerator denominator) := by
  rcases Nat.eq_zero_or_pos numerator with rfl | numeratorPos
  · rw [nearest, if_pos rfl, Nat.cast_zero, zero_div]
    exact .finite overflowBound_pos rfl rfl (by simp [zero, magnitude])
  have denominatorPos : (0 : ℚ) < denominator := by exact_mod_cast positive
  have quotientPos : (0 : ℚ) < numerator / denominator := by
    have : (0 : ℚ) < numerator := by exact_mod_cast numeratorPos
    positivity
  have steps := roundQuotient_grid numerator positive
  have exponent_eq :
      max (-1074) (binaryOrder numerator denominator - 52) =
        gridExponent ((numerator : ℚ) / denominator) := by
    rw [binaryOrder_eq_log numeratorPos positive, gridExponent]
  generalize (numerator : ℚ) / denominator = x at quotientPos steps exponent_eq ⊢
  obtain ⟨significand, carried, significand_eq, carried_eq, short, least, normal, value⟩ :=
    carry_spec (roundRational_grid_le quotientPos) (least_le_gridExponent x)
      (gridExponent_eq_or_le quotientPos)
  have finite : Canonical significand carried ↔ x < overflowBound := by
    rw [← rounded_lt_iff quotientPos.le, rounded, ← value, lt_top_iff short normal]
    exact ⟨fun canonical => canonical.2.2.1, fun small => ⟨short, least, small, normal⟩⟩
  unfold nearest
  rw [if_neg numeratorPos.ne']
  simp only [exponent_eq, steps, Nat.pow_eq, significand_eq, carried_eq]
  by_cases canonical : Canonical significand carried
  · rw [dif_pos canonical]
    exact .finite (finite.1 canonical) rfl rfl value
  · rw [dif_neg canonical]
    exact .infinite (not_lt.1 fun below => canonical (finite.2 below))

section Nearest

variable {negative : Bool} {numerator denominator : Nat}

theorem isFinite_nearest
    (positive : 0 < denominator) :
    (nearest negative numerator denominator).isFinite = true ↔
      (numerator : ℚ) / denominator < overflowBound :=
  (isNearest_nearest negative numerator positive).isFinite_iff

theorem magnitude_nearest
    (positive : 0 < denominator)
    (below : (numerator : ℚ) / denominator < overflowBound) :
    (nearest negative numerator denominator).magnitude =
      rounded ((numerator : ℚ) / denominator) :=
  (isNearest_nearest negative numerator positive).magnitude_eq below

theorem isNegative_nearest
    (positive : 0 < denominator) :
    (nearest negative numerator denominator).isNegative = negative :=
  (isNearest_nearest negative numerator positive).isNegative_eq

end Nearest

section OfBinary

variable {negative : Bool} {significand : Nat} {exponent : Int}

theorem scaled_quotient
    (base significand : Nat)
    (exponent : Int) :
    ((significand * Nat.pow base exponent.toNat : Nat) : ℚ) /
        (Nat.pow base (-exponent).toNat : Nat) =
      significand * base ^ exponent := by
  rw [zpow_eq_div, Nat.pow_eq, Nat.pow_eq, mul_div_assoc']
  push_cast
  rfl

theorem binary_quotient
    (significand : Nat)
    (exponent : Int) :
    ((significand * Nat.pow 2 exponent.toNat : Nat) : ℚ) /
        (Nat.pow 2 (-exponent).toNat : Nat) =
      significand * 2 ^ exponent := by
  rw [scaled_quotient, Nat.cast_ofNat]

theorem isFinite_ofBinary :
    (ofBinary negative significand exponent).isFinite = true ↔
      (significand : ℚ) * 2 ^ exponent < overflowBound := by
  have positive : 0 < Nat.pow 2 (-exponent).toNat := Nat.pow_pos two_pos
  rw [ofBinary, isFinite_nearest positive, binary_quotient]

theorem magnitude_ofBinary
    (below : (significand : ℚ) * 2 ^ exponent < overflowBound) :
    (ofBinary negative significand exponent).magnitude =
      rounded (significand * 2 ^ exponent) := by
  rw [← binary_quotient] at below ⊢
  exact magnitude_nearest (Nat.pow_pos two_pos) below

theorem isNegative_ofBinary :
    (ofBinary negative significand exponent).isNegative = negative :=
  isNegative_nearest (Nat.pow_pos two_pos)

end OfBinary

section OfInt

variable {n : Int}

theorem cast_natAbs_of_nonneg
    (nonnegative : 0 ≤ n) :
    (n.natAbs : ℚ) = n := by
  rw [Nat.cast_natAbs, abs_of_nonneg nonnegative]

theorem isFinite_ofInt :
    (ofInt n).isFinite = true ↔ (n.natAbs : ℚ) < overflowBound := by
  simpa [ofInt] using @isFinite_nearest (n < 0) n.natAbs 1 one_pos

theorem magnitude_ofInt
    (below : (n.natAbs : ℚ) < overflowBound) :
    (ofInt n).magnitude = rounded n.natAbs := by
  simpa [ofInt] using
    @magnitude_nearest (n < 0) n.natAbs 1 one_pos (by simpa using below)

theorem isNegative_ofInt :
    (ofInt n).isNegative = decide (n < 0) :=
  isNegative_nearest one_pos

end OfInt

theorem ofInt_ne_nan (n : Int) :
    ofInt n ≠ .nan :=
  (isNearest_nearest _ _ one_pos).ne_nan

/-- An integer has a double exactly if it lies before the half way point. -/
theorem ofInt?_eq_ok
    {n : Int}
    (below : (n.natAbs : ℚ) < overflowBound) :
    ofInt? n = .ok (ofInt n) := by
  have finite := isFinite_ofInt.2 below
  unfold ofInt?
  split
  · rename_i negative infinite
    rw [infinite] at finite
    simp [isFinite] at finite
  · rfl

/-- An integer beyond all doubles has none. -/
theorem ofInt?_eq_error
    {n : Int}
    (beyond : overflowBound ≤ (n.natAbs : ℚ)) :
    ofInt? n = .error .overflow := by
  have beyond' : overflowBound ≤ (n.natAbs : ℚ) / (1 : Nat) := by simpa using beyond
  have infinite : ofInt n = .infinite (n < 0) :=
    (isNearest_nearest _ _ one_pos).eq_infinite beyond'
  rw [ofInt?, infinite]

theorem succeeds_ofInt? {n : Int} :
    Succeeds (ofInt? n) ↔ (n.natAbs : ℚ) < overflowBound := by
  constructor
  · rintro ⟨double, made⟩
    rw [← isFinite_ofInt]
    unfold ofInt? at made
    cases shape : ofInt n with
    | nan => exact absurd shape (ofInt_ne_nan n)
    | infinite negative =>
        rw [shape] at made
        cases made
    | finite => rfl
  · intro below
    exact ⟨_, ofInt?_eq_ok below⟩

section Mul

variable {left right : Double}

theorem exact_mul
    (significand significand' : Nat)
    (exponent exponent' : Int) :
    (((significand * significand' : Nat) : ℚ)) * 2 ^ (exponent + exponent') =
      (significand * 2 ^ exponent) * (significand' * 2 ^ exponent') := by
  rw [zpow_add₀ two_ne_zero]
  push_cast
  ring

/-- A product of finite doubles is finite if the exact product is small enough. -/
theorem isFinite_mul
    (finite : left.isFinite = true)
    (finite' : right.isFinite = true) :
    (left.mul right).isFinite = true ↔ left.magnitude * right.magnitude < overflowBound := by
  cases left <;> cases right <;> simp only [isFinite, reduceCtorEq] at finite finite'
  rw [mul, isFinite_ofBinary, exact_mul, magnitude, magnitude]

theorem magnitude_mul
    (finite : left.isFinite = true)
    (finite' : right.isFinite = true)
    (below : left.magnitude * right.magnitude < overflowBound) :
    (left.mul right).magnitude = rounded (left.magnitude * right.magnitude) := by
  cases left <;> cases right <;> simp only [isFinite, reduceCtorEq] at finite finite'
  rw [magnitude, magnitude, ← exact_mul] at below ⊢
  rw [mul, magnitude_ofBinary below]

theorem isNegative_mul
    (finite : left.isFinite = true)
    (finite' : right.isFinite = true) :
    (left.mul right).isNegative = (left.isNegative ^^ right.isNegative) := by
  cases left <;> cases right <;> simp only [isFinite, reduceCtorEq] at finite finite'
  rw [mul, isNegative_ofBinary]
  rfl

end Mul

/-- The integer nearest to a finite double, halves away from zero. -/
def nearestInt (double : Double) : Int :=
  if double.isNegative then
    -(roundRational .awayFromZero double.magnitude : Int)
  else
    roundRational .awayFromZero double.magnitude

theorem round?_eq_ok
    {double : Double}
    (finite : double.isFinite = true) :
    double.round? = .ok double.nearestInt := by
  cases double <;> simp only [isFinite, reduceCtorEq] at finite
  rename_i negative significand exponent canonical
  have steps :
      roundQuotient .awayFromZero (ratio significand exponent).1 (ratio significand exponent).2 =
        roundRational .awayFromZero ((significand : ℚ) * 2 ^ exponent) := by
    rw [← binary_quotient]
    exact roundQuotient_eq _ _ (Nat.pow_pos two_pos)
  simp only [round?, nearestInt, isNegative, magnitude, steps]
  cases negative <;> rfl

theorem succeeds_round? {double : Double} :
    Succeeds double.round? ↔ double.isFinite = true := by
  constructor
  · rintro ⟨n, made⟩
    cases double with
    | nan => cases made
    | infinite negative => cases made
    | finite => rfl
  · intro finite
    exact ⟨_, round?_eq_ok finite⟩

theorem succeeds_ceiling? {double : Double} :
    Succeeds double.ceiling? ↔ double.isFinite = true := by
  cases double with
  | nan => exact iff_of_false (by rintro ⟨n, made⟩; cases made) (by simp [isFinite])
  | infinite negative => exact iff_of_false (by rintro ⟨n, made⟩; cases made) (by simp [isFinite])
  | finite negative significand exponent canonical =>
      refine iff_of_true ?_ rfl
      unfold ceiling?
      dsimp only
      split <;> exact ⟨_, rfl⟩

theorem ceiling?_eq_ok
    {double : Double}
    (finite : double.isFinite = true)
    (sign : double.isNegative = false) :
    double.ceiling? = .ok (⌈double.magnitude⌉₊ : Int) := by
  cases double <;> simp only [isFinite, reduceCtorEq] at finite
  rename_i negative significand exponent canonical
  obtain rfl : negative = false := sign
  have quotient :
      ((ratio significand exponent).1 + (ratio significand exponent).2 - 1) /
          (ratio significand exponent).2 =
        ⌈(significand : ℚ) * 2 ^ exponent⌉₊ := by
    rw [← binary_quotient]
    exact (natCeil_div _ (Nat.pow_pos two_pos)).symm
  simp only [ceiling?, magnitude, quotient]
  rfl

end Double
end LabelPress
