import LabelPress.Proofs.Number.Whole

/-!
# The nearest integer

The integer that a rational number of either sign rounds to, described without saying how it
is found.  Main statements: there is exactly one, rounding is odd and monotone, and a finite
double rounds to the integer that its value does.
-/

namespace LabelPress

/-- An integer is nearest to a rational number; half way it is the one farther from zero. -/
structure RoundsTo
    (x : ℚ)
    (n : Int) : Prop where
  close : |(n : ℚ) - x| ≤ 1 / 2
  away : |(n : ℚ) - x| = 1 / 2 → |x| < |(n : ℚ)|

namespace RoundsTo

variable {x y : ℚ} {m n : Int}

theorem intCast (n : Int) :
    RoundsTo n n where
  close := by norm_num
  away := by norm_num

theorem neg (rounds : RoundsTo x n) :
    RoundsTo (-x) (-n) := by
  have mirrored : |((-n : Int) : ℚ) - -x| = |(n : ℚ) - x| := by
    rw [Int.cast_neg, ← neg_sub', abs_neg]
  constructor
  · rw [mirrored]
    exact rounds.close
  · rw [mirrored, Int.cast_neg, abs_neg, abs_neg]
    exact rounds.away

/-- Half way between two integers only one of them lies farther from zero. -/
theorem not_both
    (lower : |x| < |x - 1 / 2|)
    (upper : |x| < |x + 1 / 2|) :
    |x| < 1 / 2 := by
  rw [abs_lt]
  constructor
  · by_contra below
    rw [abs_of_nonpos (by linarith), abs_of_nonpos (by linarith)] at upper
    linarith
  · by_contra above
    rw [abs_of_nonneg (by linarith), abs_of_nonneg (by linarith)] at lower
    linarith

/-- No integer lies above another one that the same number rounds to. -/
theorem le_of_same
    (rounds : RoundsTo x m)
    (rounds' : RoundsTo x n) :
    m ≤ n := by
  by_contra above
  have step : (n : ℚ) + 1 ≤ m := by exact_mod_cast Int.not_le.1 above
  have near := abs_le.1 rounds.close
  have near' := abs_le.1 rounds'.close
  -- The two are neighbours and the number lies half way between them.
  have upper : (m : ℚ) = x + 1 / 2 := by linarith
  have lower : (n : ℚ) = x - 1 / 2 := by linarith
  have farther := rounds.away (by rw [upper]; norm_num)
  have farther' := rounds'.away (by rw [lower]; norm_num)
  rw [upper] at farther
  rw [lower] at farther'
  have inside := abs_lt.1 (not_both farther' farther)
  have positive : (0 : ℚ) < m := by linarith
  have belowOne : (m : ℚ) < 1 := by linarith
  have positive' : 0 < m := by exact_mod_cast positive
  have belowOne' : m < 1 := by exact_mod_cast belowOne
  omega

theorem eq
    (rounds : RoundsTo x m)
    (rounds' : RoundsTo x n) :
    m = n :=
  Int.le_antisymm (rounds.le_of_same rounds') (rounds'.le_of_same rounds)

/-- Numbers in order round in order: only equal numbers are close enough to change it. -/
theorem mono
    (rounds : RoundsTo x m)
    (rounds' : RoundsTo y n)
    (le : x ≤ y) :
    m ≤ n := by
  by_contra above
  have step : (n : ℚ) + 1 ≤ m := by exact_mod_cast Int.not_le.1 above
  have near := abs_le.1 rounds.close
  have near' := abs_le.1 rounds'.close
  obtain rfl : x = y := by linarith
  exact above (rounds.le_of_same rounds')

/-- An integer less than half a unit away is the nearest one. -/
theorem of_lt
    (close : |(n : ℚ) - x| < 1 / 2) :
    RoundsTo x n :=
  ⟨close.le, fun halfWay => absurd halfWay close.ne⟩

/-- Half way between two integers a number that is not negative is rounded up. -/
theorem eq_add_half
    (rounds : RoundsTo x n)
    (nonnegative : 0 ≤ x)
    (halfWay : |(n : ℚ) - x| = 1 / 2) :
    (n : ℚ) = x + 1 / 2 := by
  have natural : 0 ≤ n := (intCast 0).mono rounds (by simpa using nonnegative)
  have natural' : (0 : ℚ) ≤ n := by exact_mod_cast natural
  have farther := rounds.away halfWay
  rw [abs_of_nonneg nonnegative, abs_of_nonneg natural'] at farther
  rw [abs_of_nonneg (by linarith)] at halfWay
  linarith

/-- A number and its integer can be moved away from zero together. -/
theorem add_of_nonneg
    (rounds : RoundsTo x n)
    (nonnegative : 0 ≤ x)
    {shift : Int}
    (outwards : 0 ≤ shift) :
    RoundsTo (x + shift) (n + shift : Int) := by
  have outwards' : (0 : ℚ) ≤ shift := by exact_mod_cast outwards
  have moved : ((n + shift : Int) : ℚ) - (x + shift) = n - x := by
    push_cast
    ring
  constructor
  · rw [moved]
    exact rounds.close
  · rw [moved]
    intro halfWay
    have up := rounds.eq_add_half nonnegative halfWay
    rw [Int.cast_add, up, abs_of_nonneg (by linarith), abs_of_nonneg (by linarith)]
    linarith

end RoundsTo

/-- Rounding a rational that is not negative gives the nearest integer. -/
theorem roundsTo_roundRational
    {x : ℚ}
    (nonnegative : 0 ≤ x) :
    RoundsTo x (roundRational .awayFromZero x : Nat) := by
  have close := abs_roundRational_sub_le .awayFromZero nonnegative
  refine ⟨by exact_mod_cast close, ?_⟩
  rw [Int.cast_natCast, abs_of_nonneg nonnegative, Nat.abs_cast]
  unfold roundRational
  have lower := Nat.floor_le nonnegative
  split
  · rename_i below
    intro halfWay
    rw [abs_of_nonpos (by linarith)] at halfWay
    linarith
  · intro _
    have upper := Nat.lt_floor_add_one x
    split <;> exact_mod_cast upper

namespace Double

variable {double : Double} {n : Int}

theorem roundsTo_nearestInt (double : Double) :
    RoundsTo double.value double.nearestInt := by
  have rounds := roundsTo_roundRational double.magnitude_nonneg
  rw [value, nearestInt]
  split
  · exact rounds.neg
  · exact rounds

/-- A finite double rounds to the integer that its value does; no other double rounds. -/
theorem round?_eq_ok_iff :
    double.round? = .ok n ↔ double.isFinite = true ∧ RoundsTo double.value n := by
  constructor
  · intro made
    have finite := succeeds_round?.1 ⟨n, made⟩
    rw [round?_eq_ok finite, Except.ok.injEq] at made
    subst made
    exact ⟨finite, double.roundsTo_nearestInt⟩
  · rintro ⟨finite, rounds⟩
    rw [round?_eq_ok finite, double.roundsTo_nearestInt.eq rounds]

/-- The double with the other sign. -/
def negated : Double → Double
  | .nan => .nan
  | .infinite negative => .infinite !negative
  | .finite negative significand exponent canonical =>
      .finite (!negative) significand exponent canonical

@[simp] theorem isFinite_negated (double : Double) :
    double.negated.isFinite = double.isFinite := by
  cases double <;> rfl

@[simp] theorem value_negated (double : Double) :
    double.negated.value = -double.value := by
  cases double with
  | nan => simp [negated, value, magnitude]
  | infinite negative => simp [negated, value, magnitude]
  | finite negative significand exponent canonical =>
      cases negative <;> simp [negated, value, isNegative, magnitude]

/-- Changing the sign before rounding changes the sign of the result, and fails alike. -/
theorem round?_negated (double : Double) :
    double.negated.round? = double.round?.map (-·) := by
  cases double with
  | nan => rfl
  | infinite negative => rfl
  | finite negative significand exponent canonical =>
      cases negative
      · rfl
      · simp [negated, round?, Except.map]

end Double
end LabelPress
