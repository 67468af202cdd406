import LabelPress.Proofs.Number.Nearest
import LabelPress.Proofs.Print.Dots

/-!
# Measuring both ways

Lengths of either sign in dots.  Main statements: a length and its opposite cover opposite
numbers of dots, whatever the resolution, and a longer length never covers fewer dots.  Both
hold of the product, which is rounded to a double, and of the last step to an integer.
-/

namespace LabelPress

namespace Double

variable {left left' right : Double}

theorem nearest_not
    (negative : Bool)
    (numerator denominator : Nat) :
    nearest (!negative) numerator denominator =
      (nearest negative numerator denominator).negated := by
  unfold nearest
  by_cases none : numerator = 0
  · rw [if_pos none, if_pos none]
    rfl
  · rw [if_neg none, if_neg none]
    dsimp only
    rw [apply_dite negated]
    rfl

/-- A product of finite doubles changes its sign with its first factor. -/
theorem mul_negated
    (finite : left.isFinite = true)
    (finite' : right.isFinite = true) :
    left.negated.mul right = (left.mul right).negated := by
  cases left <;> cases right <;> simp only [isFinite, reduceCtorEq] at finite finite'
  rw [negated, mul, mul, Bool.not_xor, ofBinary, ofBinary, nearest_not]

/-- Both factors of a finite product are finite. -/
theorem isFinite_of_mul
    (product : (left.mul right).isFinite = true) :
    left.isFinite = true ∧ right.isFinite = true := by
  rcases left with _ | s | ⟨s, m, e, canonical⟩ <;>
    rcases right with _ | t | ⟨t, n, f, canonical'⟩
  case finite.finite => exact ⟨rfl, rfl⟩
  case infinite.infinite | infinite.finite | finite.infinite =>
    simp only [mul] at product
    split at product <;> cases product
  all_goals cases product

/-- Products with one factor are in the order in which the exact products are. -/
theorem value_mul_le
    (product : (left.mul right).isFinite = true)
    (product' : (left'.mul right).isFinite = true)
    (le : left.value * right.value ≤ left'.value * right.value) :
    (left.mul right).value ≤ (left'.mul right).value := by
  obtain ⟨finite, rightFinite⟩ := isFinite_of_mul product
  obtain ⟨finite', -⟩ := isFinite_of_mul product'
  rw [value_mul finite rightFinite product, value_mul finite' rightFinite product']
  exact signedRounded_mono le

/-- A finite quotient is that of two finite doubles, or it is zero. -/
theorem isFinite_of_div
    (quotient : (left.div right).isFinite = true) :
    (left.isFinite = true ∧ right.isFinite = true) ∨
      right.isFinite = false ∧ (left.div right).value = 0 := by
  rcases left with _ | s | ⟨s, m, e, canonical⟩ <;>
    rcases right with _ | t | ⟨t, n, f, canonical'⟩
  case finite.finite => exact Or.inl ⟨rfl, rfl⟩
  case finite.infinite =>
    refine Or.inr ⟨rfl, ?_⟩
    rw [div]
    simp [value, zero, magnitude]
  all_goals cases quotient

/-- The quotient by a number that is positive is monotone. -/
theorem value_div_mono
    (nonnegative : 0 ≤ right.value)
    (nonzero : right.isZero = false)
    (quotient : (left.div right).isFinite = true)
    (quotient' : (left'.div right).isFinite = true)
    (le : left.value ≤ left'.value) :
    (left.div right).value ≤ (left'.div right).value := by
  rcases isFinite_of_div quotient with ⟨finite, rightFinite⟩ | ⟨infinite, none⟩
  · rcases isFinite_of_div quotient' with ⟨finite', -⟩ | ⟨infinite, -⟩
    · rw [value_div finite rightFinite nonzero quotient,
        value_div finite' rightFinite nonzero quotient']
      apply signedRounded_mono
      exact div_le_div_of_nonneg_right le nonnegative
    · rw [rightFinite] at infinite
      cases infinite
  · rcases isFinite_of_div quotient' with ⟨-, rightFinite⟩ | ⟨-, none'⟩
    · rw [rightFinite] at infinite
      cases infinite
    · rw [none, none']

end Double

open Double

variable {length left right shorter longer : Double} {perMillimetre m n : Int}

/-- The opposite of a length covers the opposite number of dots, and fails alike. -/
theorem dots_negated
    (length : Double)
    (perMillimetre : Int) :
    dots (.real length.negated) perMillimetre =
      (dots (.real length) perMillimetre).map (-·) := by
  rw [dots_real, dots_real, isFinite_negated]
  by_cases finite : length.isFinite = true
  · rw [if_pos finite, if_pos finite]
    rcases lt_or_ge (perMillimetre.natAbs : ℚ) overflowBound with below | beyond
    · rw [ofInt?_eq_ok below]
      change (length.negated.mul (.ofInt perMillimetre)).round? =
        (length.mul (.ofInt perMillimetre)).round?.map (-·)
      rw [mul_negated finite (isFinite_ofInt.2 below), round?_negated]
    · rw [ofInt?_eq_error beyond]
      rfl
  · rw [if_neg finite, if_neg finite]
    rfl

/-- A length covers as many dots as its product rounds to, if that is finite. -/
theorem dots_eq_round?
    (product : (length.mul (.ofInt perMillimetre)).isFinite = true) :
    dots (.real length) perMillimetre = (length.mul (.ofInt perMillimetre)).round? := by
  obtain ⟨finite, finite'⟩ := isFinite_of_mul product
  rw [dots_real, if_pos finite, ofInt?_eq_ok (isFinite_ofInt.1 finite')]
  rfl

theorem value_ofInt_nonneg
    (nonnegative : 0 ≤ perMillimetre) :
    0 ≤ (Double.ofInt perMillimetre).value := by
  rw [value, isNegative_ofInt, if_neg (by simpa using nonnegative)]
  exact magnitude_nonneg _

theorem value_ofInt_nonpos
    (nonpositive : perMillimetre ≤ 0) :
    (Double.ofInt perMillimetre).value ≤ 0 := by
  rcases nonpositive.lt_or_eq with negative | rfl
  · rw [value, isNegative_ofInt, if_pos (by simpa using negative), neg_nonpos]
    exact magnitude_nonneg _
  · exact le_of_eq (by decide +kernel)

theorem dots_le
    (product : (left.mul (.ofInt perMillimetre)).isFinite = true)
    (product' : (right.mul (.ofInt perMillimetre)).isFinite = true)
    (le : left.value * (Double.ofInt perMillimetre).value ≤
      right.value * (Double.ofInt perMillimetre).value)
    (made : dots (.real left) perMillimetre = .ok m)
    (made' : dots (.real right) perMillimetre = .ok n) :
    m ≤ n := by
  rw [dots_eq_round? product] at made
  rw [dots_eq_round? product'] at made'
  have products := value_mul_le product product' le
  exact (round?_eq_ok_iff.1 made).2.mono (round?_eq_ok_iff.1 made').2 products

/-- A longer length never covers fewer dots. -/
theorem dots_mono
    (nonnegative : 0 ≤ perMillimetre)
    (product : (shorter.mul (.ofInt perMillimetre)).isFinite = true)
    (product' : (longer.mul (.ofInt perMillimetre)).isFinite = true)
    (le : shorter.value ≤ longer.value)
    (made : dots (.real shorter) perMillimetre = .ok m)
    (made' : dots (.real longer) perMillimetre = .ok n) :
    m ≤ n :=
  dots_le product product'
    (mul_le_mul_of_nonneg_right le (value_ofInt_nonneg nonnegative)) made made'

/-- With a negative resolution the order of the lengths is turned around. -/
theorem dots_antitone
    (nonpositive : perMillimetre ≤ 0)
    (product : (shorter.mul (.ofInt perMillimetre)).isFinite = true)
    (product' : (longer.mul (.ofInt perMillimetre)).isFinite = true)
    (le : shorter.value ≤ longer.value)
    (made : dots (.real shorter) perMillimetre = .ok m)
    (made' : dots (.real longer) perMillimetre = .ok n) :
    n ≤ m :=
  dots_le product' product
    (mul_le_mul_of_nonpos_right le (value_ofInt_nonpos nonpositive)) made' made

/--
A finite double rounds to the one nearest integer, half way to the one farther from zero.  So
rounding is odd and monotone, and so is the number of dots of a length, which comes out
wherever its product with the dots of a millimetre is finite; a negative resolution turns the
order around.
-/
theorem round?_dots_odd_monotone :
    (∀ double : Double, double.isFinite = true →
        ∃ n, double.round? = .ok n ∧ ∀ m, RoundsTo double.value m ↔ m = n) ∧
      (∀ double : Double, double.negated.value = -double.value ∧
        double.negated.round? = double.round?.map (-·)) ∧
      (∀ (lower upper : Double) (m n : Int), lower.value ≤ upper.value →
        lower.round? = .ok m → upper.round? = .ok n → m ≤ n) ∧
      ∀ perMillimetre : Int,
        (∀ length : Double,
          dots (.real length.negated) perMillimetre =
            (dots (.real length) perMillimetre).map (-·)) ∧
        (∀ length : Double, (length.mul (.ofInt perMillimetre)).isFinite = true →
          Succeeds (dots (.real length) perMillimetre)) ∧
        (∀ (shorter longer : Double) (m n : Int),
          (shorter.mul (.ofInt perMillimetre)).isFinite = true →
          (longer.mul (.ofInt perMillimetre)).isFinite = true →
          shorter.value ≤ longer.value →
          dots (.real shorter) perMillimetre = .ok m →
          dots (.real longer) perMillimetre = .ok n →
          (0 ≤ perMillimetre → m ≤ n) ∧ (perMillimetre ≤ 0 → n ≤ m)) := by
  refine ⟨?nearest, fun double => ⟨double.value_negated, double.round?_negated⟩, ?monotone,
    fun perMillimetre => ⟨fun length => dots_negated length perMillimetre, ?finite, ?longer⟩⟩
  case nearest =>
    intro double finite
    refine ⟨double.nearestInt, round?_eq_ok finite, fun m => ⟨?_, ?_⟩⟩
    · intro rounds
      exact rounds.eq double.roundsTo_nearestInt
    · rintro rfl
      exact double.roundsTo_nearestInt
  case monotone =>
    intro lower upper m n le made made'
    exact (round?_eq_ok_iff.1 made).2.mono (round?_eq_ok_iff.1 made').2 le
  case finite =>
    intro length product
    rw [dots_eq_round? product, succeeds_round?]
    exact product
  case longer =>
    intro shorter longer m n product product' le made made'
    exact ⟨fun nonnegative => dots_mono nonnegative product product' le made made',
      fun nonpositive => dots_antitone nonpositive product product' le made made'⟩

theorem round?_dots_odd_monotone_below_half :
    let below : Double := .finite false (2 ^ 53 - 1) (-54) (by decide)
    let length : Double := .finite false (5 * 2 ^ 50) (-54) (by decide)
    below.isFinite = true ∧ below.round? = .ok 0 ∧ (∀ n, RoundsTo below.value n ↔ n = 0) ∧
      length.value ≤ below.value ∧
      (length.mul (.ofInt 8)).isFinite = true ∧ (below.mul (.ofInt 8)).isFinite = true ∧
      dots (.real length) 8 = .ok 3 ∧ dots (.real length.negated) 8 = .ok (-3) ∧
      dots (.real below) 8 = .ok 4 ∧ (3 : Int) ≤ 4 := by
  intro below length
  have rounds : below.round? = .ok 0 := by decide +kernel
  have product : (length.mul (.ofInt 8)).isFinite = true := by decide +kernel
  have product' : (below.mul (.ofInt 8)).isFinite = true := by decide +kernel
  have shorter : dots (.real length) 8 = .ok 3 := by decide +kernel
  have longer : dots (.real below) 8 = .ok 4 := by decide +kernel
  have le : length.value ≤ below.value := by
    norm_num [below, length, value, isNegative, magnitude]
  obtain ⟨nearest, -, -, measured⟩ := round?_dots_odd_monotone
  obtain ⟨n, made, unique⟩ := nearest below rfl
  obtain rfl : n = 0 := Except.ok.inj (made.symm.trans rounds)
  obtain ⟨opposite, -, monotone⟩ := measured 8
  refine ⟨rfl, made, unique, le, product, product', shorter, ?_, longer, ?_⟩
  · rw [opposite, shorter]
    rfl
  · exact (monotone length below 3 4 product product' le shorter longer).1 (by decide)

end LabelPress
