import LabelPress.Proofs.Number.Nearest

/-!
# Rounding by operations on doubles

The nearest integer can be found with doubles alone: the integer part is taken off, the rest
is compared with a half, and the sign is put back at the end.  Every one of these operations
rounds its result.  Main statement: none of them loses anything, so for every double they come
to the integer that exact rounding comes to, and they fail alike.

The integer part of a double and the rest behind it both have at most 53 bits, and a double
whose integer part has more bits has no rest.
-/

namespace LabelPress
namespace Double

/-- The half from which on a rest is rounded up. -/
def half : Double :=
  .finite false (Nat.pow 2 52) (-53) (by decide)

/-- A double with another sign. -/
def withSign (negative : Bool) : Double → Double
  | .nan => .nan
  | .infinite _ => .infinite negative
  | .finite _ significand exponent canonical => .finite negative significand exponent canonical

/-- The integer part of a double. -/
def whole? : Double → Except NumericFault Int
  | .nan => .error .notANumber
  | .infinite _ => .error .overflow
  | .finite negative significand exponent _ =>
      let parts := ratio significand exponent
      let magnitude := parts.1 / parts.2
      .ok (if negative then -(magnitude : Int) else magnitude)

/-- Round to the nearest integer, halves away from zero, by operations on doubles. -/
def roundByParts? (double : Double) : Except NumericFault Int := do
  let size := double.withSign false
  let whole ← size.whole?
  let rest := size.add (← ofInt? whole).negated
  let upward := (rest.compare? half).any Ordering.isGE
  let nearest ← ofInt? (if upward then whole + 1 else whole)
  (nearest.withSign double.isNegative).whole?

/-! ## The operations -/

section
variable {double left right : Double}

@[simp] theorem isFinite_withSign
    (negative : Bool)
    (double : Double) :
    (double.withSign negative).isFinite = double.isFinite := by
  cases double <;> rfl

@[simp] theorem magnitude_withSign
    (negative : Bool)
    (double : Double) :
    (double.withSign negative).magnitude = double.magnitude := by
  cases double <;> rfl

theorem isNegative_withSign
    (finite : double.isFinite = true)
    (negative : Bool) :
    (double.withSign negative).isNegative = negative := by
  cases double <;> simp only [isFinite, reduceCtorEq] at finite
  rfl

/-- Without its sign a double denotes its size. -/
theorem value_withSign_false
    (finite : double.isFinite = true) :
    (double.withSign false).value = double.magnitude := by
  rw [value, isNegative_withSign finite, magnitude_withSign]
  rfl

/-- Of a double with another sign, the integer part is that of its size with this sign. -/
theorem whole?_withSign
    (finite : double.isFinite = true)
    (negative : Bool) :
    (double.withSign negative).whole? =
      .ok (if negative then -(⌊double.magnitude⌋₊ : Int) else ⌊double.magnitude⌋₊) := by
  cases double <;> simp only [isFinite, reduceCtorEq] at finite
  rename_i sign significand exponent canonical
  have quotient :
      (ratio significand exponent).1 / (ratio significand exponent).2 =
        ⌊(significand : ℚ) * 2 ^ exponent⌋₊ := by
    rw [← binary_quotient]
    exact (Nat.floor_div_eq_div _ _).symm
  simp only [withSign, whole?, quotient, magnitude]

/-- The sum of two doubles counts the units that both count together. -/
theorem value_add_value
    {negative negative' : Bool}
    {significand significand' : Nat}
    {exponent exponent' : Int}
    (canonical : Canonical significand exponent)
    (canonical' : Canonical significand' exponent') :
    (Double.finite negative significand exponent canonical).value +
        (Double.finite negative' significand' exponent' canonical').value =
      (units negative significand exponent + units negative' significand' exponent' : Int) *
        2 ^ (-1074 : Int) := by
  rw [value_eq_units, value_eq_units, Int.cast_add, add_mul]

/-- The value of a sum is the exact sum, rounded, if that is small enough. -/
theorem value_add
    (finite : left.isFinite = true)
    (finite' : right.isFinite = true)
    (below : |left.value + right.value| < overflowBound) :
    (left.add right).isFinite = true ∧
      (left.add right).value = signedRounded (left.value + right.value) := by
  cases left <;> cases right <;> simp only [isFinite, reduceCtorEq] at finite finite'
  rename_i s m e canonical t n f canonical'
  rw [value_add_value] at below ⊢
  rw [add]
  generalize units s m e + units t n f = total at below ⊢
  rcases eq_or_ne total 0 with rfl | nonzero
  · exact ⟨rfl, by simp [signedRounded, zero, value, magnitude]⟩
  · have step : (0 : ℚ) < 2 ^ (-1074 : Int) := zpow_pos two_pos _
    have size : |(total : ℚ) * 2 ^ (-1074 : Int)| = total.natAbs * 2 ^ (-1074 : Int) := by
      rw [abs_mul, abs_of_pos step, Nat.cast_natAbs, Int.cast_abs]
    rw [size] at below
    simp only [if_neg nonzero]
    refine ⟨isFinite_ofBinary.2 below, ?_⟩
    rw [value, isNegative_ofBinary, magnitude_ofBinary below,
      ← signedRounded_ite _ (by positivity), ← size]
    congr 1
    rcases lt_or_ge total 0 with negative | nonnegative
    · have below : (total : ℚ) * 2 ^ (-1074 : Int) < 0 :=
        mul_neg_of_neg_of_pos (by exact_mod_cast negative) step
      rw [if_pos (by simpa using negative), abs_of_neg below, neg_neg]
    · have above : 0 ≤ (total : ℚ) * 2 ^ (-1074 : Int) :=
        mul_nonneg (by exact_mod_cast nonnegative) step.le
      rw [if_neg (by simpa using nonnegative), abs_of_nonneg above]

theorem isGE_compare?_half
    (finite : double.isFinite = true) :
    (double.compare? half).any Ordering.isGE = decide (1 / 2 ≤ double.value) := by
  have halfValue : half.value = 1 / 2 := by
    norm_num [half, value, isNegative, magnitude]
  have compared : double.compare? half = some (cmp double.value (1 / 2)) := by
    rw [← halfValue]
    cases double <;> simp only [isFinite, reduceCtorEq] at finite
    exact congrArg some (compare_units _ _)
  rw [compared, Option.any_some]
  rcases lt_trichotomy double.value (1 / 2) with less | same | greater
  · rw [(cmp_eq_lt_iff _ _).2 less, decide_eq_false (not_le.2 less)]
    rfl
  · rw [(cmp_eq_eq_iff _ _).2 same, decide_eq_true same.ge]
    rfl
  · rw [(cmp_eq_gt_iff _ _).2 greater, decide_eq_true greater.le]
    rfl

/-- A natural number that doubles can keep has a double, and this has its size. -/
theorem exists_ofInt?_natCast
    {n : Nat}
    (kept : rounded n = n ∧ (n : ℚ) < overflowBound) :
    ∃ double, ofInt? n = .ok double ∧ double.isFinite = true ∧ double.value = n ∧
      double.magnitude = n := by
  obtain ⟨kept, below⟩ := kept
  have below' : (((n : Int).natAbs : Nat) : ℚ) < overflowBound := by
    rwa [Int.natAbs_natCast]
  refine ⟨ofInt n, ofInt?_eq_ok below', isFinite_ofInt.2 below', ?_, ?_⟩
  · rw [value_ofInt below', Int.cast_natCast, signedRounded_of_nonneg (Nat.cast_nonneg n), kept]
  · rw [magnitude_ofInt below', Int.natAbs_natCast, kept]

end

/-! ## The parts of a double -/

section
variable {double : Double}

theorem rounded_magnitude (double : Double) :
    rounded double.magnitude = double.magnitude := by
  cases double with
  | nan => exact rounded_zero
  | infinite negative => exact rounded_zero
  | finite negative significand exponent canonical =>
      exact rounded_of_short canonical.1 canonical.2.1

/-- A double lies before the half way point behind the greatest one. -/
theorem magnitude_lt_overflowBound (double : Double) :
    double.magnitude < overflowBound := by
  rw [← rounded_lt_iff double.magnitude_nonneg, rounded_magnitude]
  cases double with
  | nan => exact zpow_pos two_pos _
  | infinite negative => exact zpow_pos two_pos _
  | finite negative significand exponent canonical =>
      obtain ⟨short, -, last, normal⟩ := canonical
      exact (lt_top_iff short normal).2 last

/-- A double whose last place stands before the point is whole. -/
theorem magnitude_of_exponent_nonneg
    (significand places : Nat) :
    (significand : ℚ) * 2 ^ (places : Int) = ⌊(significand : ℚ) * 2 ^ (places : Int)⌋₊ := by
  have whole : (significand : ℚ) * 2 ^ (places : Int) = (significand * 2 ^ places : Nat) := by
    push_cast
    rfl
  rw [whole, Nat.floor_natCast]

/-- The places behind the point are what the integer part leaves of the significand. -/
theorem parts_of_exponent_neg
    (significand places : Nat) :
    ⌊(significand : ℚ) * 2 ^ (-(places : Int))⌋₊ = significand / 2 ^ places ∧
      (significand : ℚ) * 2 ^ (-(places : Int)) - (significand / 2 ^ places : Nat) =
        (significand % 2 ^ places : Nat) * 2 ^ (-(places : Int)) := by
  have quotient : (significand : ℚ) * 2 ^ (-(places : Int)) = significand / (2 ^ places : Nat) := by
    rw [zpow_neg, zpow_natCast, div_eq_mul_inv]
    push_cast
    rfl
  constructor
  · rw [quotient, Nat.floor_div_eq_div]
  · have parts : (significand : ℚ) =
        2 ^ places * (significand / 2 ^ places : Nat) + (significand % 2 ^ places : Nat) := by
      exact_mod_cast (Nat.div_add_mod significand (2 ^ places)).symm
    have rest : ((significand % 2 ^ places : Nat) : ℚ) =
        significand - 2 ^ places * (significand / 2 ^ places : Nat) := by
      linarith
    rw [rest, sub_mul, zpow_neg, zpow_natCast, mul_comm (2 ^ places : ℚ),
      mul_inv_cancel_right₀ (pow_ne_zero _ two_ne_zero)]

/--
The rest behind the integer part is kept by doubles, and there is none if the integer part
has more than 53 bits.
-/
theorem parts_of_magnitude (double : Double) :
    rounded (double.magnitude - ⌊double.magnitude⌋₊) =
        double.magnitude - ⌊double.magnitude⌋₊ ∧
      (double.magnitude = ⌊double.magnitude⌋₊ ∨ ⌊double.magnitude⌋₊ < 2 ^ 53) := by
  cases double with
  | nan => simp [magnitude]
  | infinite negative => simp [magnitude]
  | finite negative significand exponent canonical =>
      have size : (Double.finite negative significand exponent canonical).magnitude =
          significand * 2 ^ exponent := rfl
      rw [size]
      obtain ⟨short, least, -, -⟩ := canonical
      rcases Int.le_total 0 exponent with positive | negative
      · obtain ⟨places, rfl⟩ := Int.eq_ofNat_of_zero_le positive
        have whole := magnitude_of_exponent_nonneg significand places
        rw [← whole, sub_self]
        exact ⟨rounded_zero, Or.inl rfl⟩
      · obtain ⟨places, opposite⟩ := Int.eq_ofNat_of_zero_le (Int.neg_nonneg_of_nonpos negative)
        obtain rfl : exponent = -(places : Int) := by omega
        obtain ⟨whole, rest⟩ := parts_of_exponent_neg significand places
        rw [whole, rest]
        refine ⟨rounded_of_short ?_ least, Or.inr ?_⟩
        · exact (Nat.mod_le _ _).trans_lt short
        · exact (Nat.div_le_self _ _).trans_lt short

/-- The integer part of a double is kept by doubles. -/
theorem floor_magnitude_kept (double : Double) :
    rounded ⌊double.magnitude⌋₊ = ⌊double.magnitude⌋₊ ∧
      (⌊double.magnitude⌋₊ : ℚ) < overflowBound := by
  constructor
  · rcases double.parts_of_magnitude.2 with whole | short
    · rw [← whole, rounded_magnitude]
    · exact rounded_natCast short
  · exact (Nat.floor_le double.magnitude_nonneg).trans_lt double.magnitude_lt_overflowBound

/-- The rest behind the integer part is found exactly. -/
theorem value_rest
    {floor : Double}
    (finite : double.isFinite = true)
    (floorFinite : floor.isFinite = true)
    (floorValue : floor.value = ⌊double.magnitude⌋₊) :
    ((double.withSign false).add floor.negated).isFinite = true ∧
      ((double.withSign false).add floor.negated).value =
        double.magnitude - ⌊double.magnitude⌋₊ := by
  have difference : (double.withSign false).value + floor.negated.value =
      double.magnitude - ⌊double.magnitude⌋₊ := by
    rw [value_withSign_false finite, value_negated, floorValue, sub_eq_add_neg]
  have lower := Nat.floor_le double.magnitude_nonneg
  have nonnegative : (0 : ℚ) ≤ ⌊double.magnitude⌋₊ := Nat.cast_nonneg _
  have below : |double.magnitude - ⌊double.magnitude⌋₊| < overflowBound := by
    rw [abs_of_nonneg (by linarith)]
    have top := double.magnitude_lt_overflowBound
    linarith
  rw [← difference] at below
  obtain ⟨restFinite, restValue⟩ :=
    value_add ((isFinite_withSign false double).trans finite)
      ((isFinite_negated floor).trans floorFinite) below
  refine ⟨restFinite, ?_⟩
  rw [restValue, difference, signedRounded_of_nonneg (by linarith), double.parts_of_magnitude.1]

/-- Comparing the rest with a half decides which integer is the nearest one. -/
theorem chosen_eq_roundRational
    {rest : Double}
    (finite : rest.isFinite = true)
    (restValue : rest.value = double.magnitude - ⌊double.magnitude⌋₊) :
    (if (rest.compare? half).any Ordering.isGE then
        (⌊double.magnitude⌋₊ : Int) + 1
      else
        ⌊double.magnitude⌋₊) =
      (roundRational .awayFromZero double.magnitude : Nat) := by
  rw [isGE_compare?_half finite, restValue, roundRational_awayFromZero]
  simp only [decide_eq_true_eq]
  split
  · push_cast
    rfl
  · rfl

/-- The integer nearest to the size of a double is kept by doubles. -/
theorem roundRational_magnitude_kept (double : Double) :
    rounded (roundRational .awayFromZero double.magnitude : Nat) =
        (roundRational .awayFromZero double.magnitude : Nat) ∧
      ((roundRational .awayFromZero double.magnitude : Nat) : ℚ) < overflowBound := by
  rw [roundRational_awayFromZero]
  split
  · rename_i upward
    rcases double.parts_of_magnitude.2 with whole | short
    · rw [← whole, sub_self] at upward
      exact absurd upward (by norm_num)
    · have short' : ((⌊double.magnitude⌋₊ + 1 : Nat) : Int).natAbs ≤ 2 ^ 53 := by
        rw [Int.natAbs_natCast]
        omega
      have below := (abs_lt.1 (abs_lt_overflowBound_of_short short')).2
      exact ⟨rounded_natCast_of_le short, by exact_mod_cast below⟩
  · exact double.floor_magnitude_kept

end

/--
Rounding by operations on doubles comes to the nearest integer for every finite double, and
fails as exact rounding does for every other one: no operation on the way loses anything.
-/
theorem roundByParts?_eq_round? (double : Double) :
    double.roundByParts? = double.round? := by
  by_cases finite : double.isFinite = true
  · obtain ⟨floor, floorMade, floorFinite, floorValue, -⟩ :=
      exists_ofInt?_natCast double.floor_magnitude_kept
    obtain ⟨nearest, nearestMade, nearestFinite, -, nearestSize⟩ :=
      exists_ofInt?_natCast double.roundRational_magnitude_kept
    obtain ⟨restFinite, restValue⟩ := value_rest finite floorFinite floorValue
    rw [round?_eq_ok finite, roundByParts?]
    refine bind_eq_ok.2 ⟨_, whole?_withSign finite false, ?_⟩
    refine bind_eq_ok.2 ⟨floor, floorMade, bind_eq_ok.2 ⟨nearest, ?_, ?_⟩⟩
    · exact (congrArg ofInt? (chosen_eq_roundRational restFinite restValue)).trans nearestMade
    · rw [whole?_withSign nearestFinite, nearestSize, Nat.floor_natCast, nearestInt]
  · cases double with
    | nan => rfl
    | infinite negative => rfl
    | finite => exact absurd rfl finite

end Double
end LabelPress
