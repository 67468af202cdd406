import LabelPress.Proofs.Number.Numeral
import LabelPress.Proofs.Number.Order

/-!
# Whole numbers among the doubles

The place at which a rational number lies once it is rounded to a double.  Main statements:
a written integer lies at the place of the double nearest to it, rounding never changes the
order of two numbers, and integers up to `2 ^ 53` keep their own places, so that one of them
is never rounded to the place of another integer.
-/

namespace LabelPress
namespace Double

/-- Rounding to doubles for rationals of either sign. -/
def signedRounded (x : ℚ) : ℚ :=
  if x < 0 then -rounded (-x) else rounded x

/-- The place of the double nearest to a rational; far out it is one of the infinities. -/
def nearestPlace (x : ℚ) : WithBot (WithTop ℚ) :=
  if x ≤ -overflowBound then
    ⊥
  else if overflowBound ≤ x then
    ⊤
  else
    ((signedRounded x : WithTop ℚ) : WithBot (WithTop ℚ))

variable {x y : ℚ}

theorem signedRounded_of_nonneg
    (nonnegative : 0 ≤ x) :
    signedRounded x = rounded x :=
  if_neg (not_lt.2 nonnegative)

theorem signedRounded_neg (x : ℚ) :
    signedRounded (-x) = -signedRounded x := by
  rcases lt_trichotomy x 0 with below | rfl | above
  · rw [signedRounded_of_nonneg (by linarith), signedRounded, if_pos below, neg_neg]
  · simp [signedRounded]
  · rw [signedRounded, if_pos (by linarith), neg_neg, signedRounded_of_nonneg above.le]

theorem signedRounded_ite
    (negative : Bool)
    (nonnegative : 0 ≤ x) :
    signedRounded (if negative then -x else x) =
      if negative then -rounded x else rounded x := by
  cases negative with
  | false => exact signedRounded_of_nonneg nonnegative
  | true =>
      rw [if_pos rfl, if_pos rfl, signedRounded_neg, signedRounded_of_nonneg nonnegative]

theorem signedRounded_mono
    (le : x ≤ y) :
    signedRounded x ≤ signedRounded y := by
  rcases lt_or_ge x 0 with xBelow | xAbove
  · rcases lt_or_ge y 0 with yBelow | yAbove
    · rw [signedRounded, signedRounded, if_pos xBelow, if_pos yBelow, neg_le_neg_iff]
      exact rounded_mono (by linarith) (by linarith)
    · have front := rounded_nonneg (-x)
      have behind := rounded_nonneg y
      rw [signedRounded, if_pos xBelow, signedRounded_of_nonneg yAbove]
      linarith
  · rw [signedRounded_of_nonneg xAbove, signedRounded_of_nonneg (xAbove.trans le)]
    exact rounded_mono xAbove le

theorem nearestPlace_of_finite
    (above : -overflowBound < x)
    (below : x < overflowBound) :
    nearestPlace x = ((signedRounded x : WithTop ℚ) : WithBot (WithTop ℚ)) := by
  rw [nearestPlace, if_neg (not_le.2 above), if_neg (not_le.2 below)]

/-- Rounding never turns the order of two numbers around. -/
theorem nearestPlace_mono
    (le : x ≤ y) :
    nearestPlace x ≤ nearestPlace y := by
  rcases le_or_gt x (-overflowBound) with bottom | above
  · rw [nearestPlace, if_pos bottom]
    exact bot_le
  · rcases le_or_gt overflowBound y with top | below
    · have positive := overflowBound_pos
      rw [nearestPlace.eq_def y, if_neg (by linarith), if_pos top]
      exact le_top
    · rw [nearestPlace_of_finite above (le.trans_lt below),
        nearestPlace_of_finite (above.trans_le le) below, WithBot.coe_le_coe, WithTop.coe_le_coe]
      exact signedRounded_mono le

/-- The value of the double of an integer is the integer, rounded. -/
theorem value_ofInt
    {n : Int}
    (below : (n.natAbs : ℚ) < overflowBound) :
    (ofInt n).value = signedRounded n := by
  rw [value, isNegative_ofInt, magnitude_ofInt below, signedRounded, ← Int.cast_neg]
  by_cases negative : n < 0
  · rw [if_pos (by simpa using negative), if_pos (by exact_mod_cast negative),
      ← cast_natAbs_of_nonneg (by omega : 0 ≤ -n), Int.natAbs_neg]
  · rw [if_neg (by simpa using negative), if_neg (by exact_mod_cast negative),
      cast_natAbs_of_nonneg (by omega)]

/-- The value of a product is the exact product, rounded. -/
theorem value_mul
    {left right : Double}
    (finite : left.isFinite = true)
    (finite' : right.isFinite = true)
    (product : (left.mul right).isFinite = true) :
    (left.mul right).value = signedRounded (left.value * right.value) := by
  have below := (isFinite_mul finite finite').1 product
  have size := mul_nonneg left.magnitude_nonneg right.magnitude_nonneg
  rw [value, isNegative_mul finite finite', magnitude_mul finite finite' below,
    ← signedRounded_ite _ size]
  congr 1
  rw [value, value]
  cases left.isNegative <;> cases right.isNegative <;> simp

theorem binary_division
    (significand significand' : Nat)
    (exponent exponent' : Int) :
    ((significand * Nat.pow 2 (exponent - exponent').toNat : Nat) : ℚ) /
        (significand' * Nat.pow 2 (exponent' - exponent).toNat : Nat) =
      (significand * 2 ^ exponent) / (significand' * 2 ^ exponent') := by
  have scale := zpow_eq_div 2 (exponent - exponent')
  rw [neg_sub, zpow_sub₀ two_ne_zero] at scale
  rw [mul_div_mul_comm, scale, Nat.pow_eq, Nat.pow_eq]
  push_cast
  rw [mul_div_mul_comm]

/-- The value of a quotient is the exact quotient, rounded. -/
theorem value_div
    {left right : Double}
    (finite : left.isFinite = true)
    (finite' : right.isFinite = true)
    (nonzero : right.isZero = false)
    (quotient : (left.div right).isFinite = true) :
    (left.div right).value = signedRounded (left.value / right.value) := by
  cases left <;> cases right <;> simp only [isFinite, reduceCtorEq] at finite finite'
  rename_i s m e canonical t n f canonical'
  have divisor : n ≠ 0 := by simpa [isZero] using nonzero
  have positive : 0 < n * Nat.pow 2 (f - e).toNat :=
    Nat.mul_pos (Nat.pos_of_ne_zero divisor) (Nat.pow_pos two_pos)
  rw [div, if_neg divisor] at quotient ⊢
  have below := (isFinite_nearest positive).1 quotient
  have size : (0 : ℚ) ≤ (m * 2 ^ e) / (n * 2 ^ f) := by positivity
  rw [value, isNegative_nearest positive, magnitude_nearest positive below, binary_division,
    ← signedRounded_ite _ size]
  congr 1
  rw [value, value]
  cases s <;> cases t <;> simp [isNegative, magnitude, neg_div, div_neg]

theorem place?_of_isFinite
    {double : Double}
    (finite : double.isFinite = true) :
    double.place? = some ((double.value : WithTop ℚ) : WithBot (WithTop ℚ)) := by
  cases double <;> simp only [isFinite, reduceCtorEq] at finite
  rfl

/-- The nearest double to a number lies at the nearest place. -/
theorem IsNearest.place?_eq
    {negative : Bool}
    {double : Double}
    (nonnegative : 0 ≤ x)
    (nearest : IsNearest negative x double) :
    double.place? = some (nearestPlace (if negative then -x else x)) := by
  have bound := overflowBound_pos
  cases nearest with
  | finite below finite sign value =>
      rw [place?_of_isFinite finite, Double.value, sign, value]
      cases negative with
      | false =>
          simp only [Bool.false_eq_true, if_false]
          rw [nearestPlace_of_finite (by linarith) below, signedRounded_of_nonneg nonnegative]
      | true =>
          simp only [if_true]
          rw [nearestPlace_of_finite (by linarith) (by linarith), signedRounded_neg,
            signedRounded_of_nonneg nonnegative]
  | infinite beyond =>
      cases negative with
      | false =>
          simp only [Bool.false_eq_true, if_false]
          rw [nearestPlace, if_neg (by linarith), if_pos beyond]
          rfl
      | true =>
          simp only [if_true]
          rw [nearestPlace, if_pos (by linarith)]
          rfl

/-- Rounding also keeps the first integer of more than 53 bits. -/
theorem rounded_natCast_of_le
    {n : Nat}
    (short : n ≤ 2 ^ 53) :
    rounded n = n := by
  rcases short.lt_or_eq with less | rfl
  · exact rounded_natCast less
  · have same : ((2 ^ 53 : Nat) : ℚ) = (2 ^ 52 : Nat) * 2 ^ (1 : Int) := by norm_num
    rw [same]
    exact rounded_of_short (by norm_num) (by decide)

theorem signedRounded_intCast
    {n : Int}
    (short : n.natAbs ≤ 2 ^ 53) :
    signedRounded n = n := by
  obtain ⟨size, rfl | rfl⟩ := n.eq_nat_or_neg
  · rw [Int.natAbs_natCast] at short
    rw [Int.cast_natCast, signedRounded_of_nonneg (Nat.cast_nonneg _),
      rounded_natCast_of_le short]
  · rw [Int.natAbs_neg, Int.natAbs_natCast] at short
    rw [Int.cast_neg, Int.cast_natCast, signedRounded_neg,
      signedRounded_of_nonneg (Nat.cast_nonneg _), rounded_natCast_of_le short]

/-- The double nearest to an integer has no fraction: from `2 ^ 53` on no double has one. -/
theorem exists_rounded_natCast (n : Nat) :
    ∃ m : Nat, rounded n = m := by
  rcases Nat.lt_or_ge n (2 ^ 53) with short | long
  · exact ⟨n, rounded_natCast short⟩
  · have positive : n ≠ 0 := by
      rintro rfl
      exact absurd long (by norm_num)
    have bits : 53 ≤ Nat.log 2 n := (Nat.le_log_iff_pow_le one_lt_two positive).2 long
    obtain ⟨places, coarse⟩ : ∃ places : Nat, gridExponent n = places := by
      refine ⟨(gridExponent n).toNat, ?_⟩
      rw [gridExponent, Int.log_natCast]
      omega
    refine ⟨roundRational .toEven (n / 2 ^ gridExponent n) * 2 ^ places, ?_⟩
    rw [rounded, coarse, zpow_natCast]
    push_cast
    rfl

theorem exists_signedRounded_intCast (n : Int) :
    ∃ m : Int, signedRounded n = m := by
  obtain ⟨size, rfl | rfl⟩ := n.eq_nat_or_neg
  · obtain ⟨m, whole⟩ := exists_rounded_natCast size
    refine ⟨m, ?_⟩
    rw [Int.cast_natCast, signedRounded_of_nonneg (Nat.cast_nonneg _), whole, Int.cast_natCast]
  · obtain ⟨m, whole⟩ := exists_rounded_natCast size
    refine ⟨-m, ?_⟩
    rw [Int.cast_neg, Int.cast_natCast, signedRounded_neg,
      signedRounded_of_nonneg (Nat.cast_nonneg _), whole, Int.cast_neg, Int.cast_natCast]

theorem abs_lt_overflowBound_of_short
    {n : Int}
    (short : n.natAbs ≤ 2 ^ 53) :
    |(n : ℚ)| < overflowBound := by
  have power : (1 : ℚ) ≤ 2 ^ (970 : Int) := one_le_zpow₀ one_le_two (by norm_num)
  have scaled : (2 ^ 54 - 1 : ℚ) * 1 ≤ overflowBound :=
    mul_le_mul_of_nonneg_left power (by norm_num)
  have short' : (n.natAbs : ℚ) ≤ 2 ^ 53 := by exact_mod_cast short
  rw [Nat.cast_natAbs, Int.cast_abs] at short'
  linarith

/-- An integer of at most 53 bits, or the next one, keeps its place. -/
theorem nearestPlace_intCast
    {n : Int}
    (short : n.natAbs ≤ 2 ^ 53) :
    nearestPlace n = (((n : ℚ) : WithTop ℚ) : WithBot (WithTop ℚ)) := by
  obtain ⟨above, below⟩ := abs_lt.1 (abs_lt_overflowBound_of_short short)
  rw [nearestPlace_of_finite above below, signedRounded_intCast short]

/-- An integer of 53 bits shares its place with no other integer. -/
theorem nearestPlace_lt
    {m n : Int}
    (short : m.natAbs < 2 ^ 53 ∨ n.natAbs < 2 ^ 53)
    (lt : m < n) :
    nearestPlace m < nearestPlace n := by
  rcases short with mShort | nShort
  · have next := nearestPlace_intCast (n := m + 1) (by omega)
    have here := nearestPlace_intCast (n := m) mShort.le
    have step : ((m : ℚ) : WithTop ℚ) < ((m + 1 : Int) : ℚ) := by
      rw [WithTop.coe_lt_coe]
      push_cast
      linarith
    have later : nearestPlace ((m + 1 : Int) : ℚ) ≤ nearestPlace n :=
      nearestPlace_mono (by exact_mod_cast lt)
    rw [here]
    rw [next] at later
    exact (WithBot.coe_lt_coe.2 step).trans_le later
  · have before := nearestPlace_intCast (n := n - 1) (by omega)
    have here := nearestPlace_intCast (n := n) nShort.le
    have step : (((n - 1 : Int) : ℚ) : WithTop ℚ) < (n : ℚ) := by
      rw [WithTop.coe_lt_coe]
      push_cast
      linarith
    have earlier : nearestPlace m ≤ nearestPlace ((n - 1 : Int) : ℚ) :=
      nearestPlace_mono (by exact_mod_cast Int.le_sub_one_of_lt lt)
    rw [here]
    rw [before] at earlier
    exact earlier.trans_lt (WithBot.coe_lt_coe.2 step)

theorem eq_of_nearestPlace_eq
    {m n : Int}
    (short : m.natAbs < 2 ^ 53 ∨ n.natAbs < 2 ^ 53)
    (same : nearestPlace m = nearestPlace n) :
    m = n := by
  rcases lt_trichotomy m n with below | equal | above
  · exact absurd same (nearestPlace_lt short below).ne
  · exact equal
  · exact absurd same (nearestPlace_lt short.symm above).ne'

end Double

/-- A written integer lies at the place of the double nearest to it. -/
theorem Numeral.Writes.numberPlace?_eq
    {n : Int}
    {text : Text}
    (writes : Numeral.Writes n text) :
    numberPlace? text = some (Double.nearestPlace n) := by
  obtain ⟨negative, signed, parsed⟩ := writes.parseNumber?_eq
  have value : (n : ℚ) = if negative then -(n.natAbs : ℚ) else n.natAbs := by
    have cast := congrArg (Int.cast : Int → ℚ) signed
    rw [cast]
    cases negative <;> simp
  have nearest := Double.isNearest_ofDecimal negative n.natAbs 0
  rw [zpow_zero, mul_one] at nearest
  rw [numberPlace?, parsed, Option.bind_some, nearest.place?_eq (Nat.cast_nonneg _), value]

end LabelPress
