import LabelPress.Print.Dots
import LabelPress.Proofs.Number.Double

/-!
# Counting dots

The dots of a length as a rational rounded twice, first to a double and then to an
integer.  A length can be measured if it and the dots of a millimetre have a product
before the half way point behind the greatest double.
-/

namespace LabelPress

open Double

/-- The dots of a millimetre at some resolution. -/
def IsDensity (perMillimetre : Int) : Prop :=
  perMillimetre = 8 ∨ perMillimetre = 12 ∨ perMillimetre = 24

theorem isDensity_dotsPerMillimetre (dotsPerInch : Number) :
    IsDensity (dotsPerMillimetre dotsPerInch) := by
  unfold dotsPerMillimetre resolutions defaultDotsPerMillimetre IsDensity
  simp only [List.find?_cons, List.find?_nil]
  split
  · simp
  · split
    · simp
    · split <;> simp

/-- The dots that a length covers, none if it is infinite. -/
def dotCount
    (length : Double)
    (perMillimetre : Int) : Int :=
  let count : Int := roundRational .awayFromZero (rounded (length.magnitude * perMillimetre))
  if length.isNegative then -count else count

variable {length : Double} {perMillimetre : Int}

theorem IsDensity.ofInt
    (density : IsDensity perMillimetre) :
    ofInt? perMillimetre = .ok (ofInt perMillimetre) ∧
      (ofInt perMillimetre).isFinite = true ∧
      (ofInt perMillimetre).isNegative = false ∧
      (ofInt perMillimetre).magnitude = perMillimetre := by
  have small : perMillimetre.natAbs < 2 ^ 53 ∧ 0 ≤ perMillimetre := by
    unfold IsDensity at density
    omega
  have below := lt_overflowBound_of_short small.1
  refine ⟨ofInt?_eq_ok below, isFinite_ofInt.2 below, ?_, ?_⟩
  · rw [isNegative_ofInt]
    simpa using small.2
  · rw [magnitude_ofInt below, rounded_natCast small.1, cast_natAbs_of_nonneg small.2]

/-- A finite length is multiplied and rounded, any other one covers no dots. -/
theorem dots_real
    (length : Double)
    (perMillimetre : Int) :
    dots (.real length) perMillimetre =
      if length.isFinite then
        ofInt? perMillimetre >>= fun factor => (length.mul factor).round?
      else
        .ok 0 := by
  change (if length.isFinite = true then
      (ofInt? perMillimetre).map (fun factor => Number.real (length.mul factor)) >>= Number.round?
    else pure 0) = _
  split
  · cases ofInt? perMillimetre with
    | error fault => rfl
    | ok factor => rfl
  · rfl

theorem dots_eq
    (density : IsDensity perMillimetre)
    (length : Double) :
    dots (.real length) perMillimetre =
      if length.isFinite then
        (length.mul (Double.ofInt perMillimetre)).round?
      else
        .ok 0 := by
  rw [dots_real, density.ofInt.1]
  rfl

/-- A length can be measured if the exact number of its dots is small enough. -/
theorem succeeds_dots
    (density : IsDensity perMillimetre) :
    Succeeds (dots (.real length) perMillimetre) ↔
      length.magnitude * perMillimetre < overflowBound := by
  obtain ⟨-, finite, -, value⟩ := density.ofInt
  rw [dots_eq density]
  by_cases measured : length.isFinite = true
  · rw [if_pos measured, succeeds_round?, isFinite_mul measured finite, value]
  · rw [if_neg measured, magnitude_of_not_isFinite measured, zero_mul]
    exact iff_of_true (.ok 0) overflowBound_pos

/-- The dots of a length that can be measured. -/
theorem dots_eq_ok
    (density : IsDensity perMillimetre)
    (below : length.magnitude * perMillimetre < overflowBound) :
    dots (.real length) perMillimetre = .ok (dotCount length perMillimetre) := by
  obtain ⟨-, finite, sign, value⟩ := density.ofInt
  rw [dots_eq density]
  by_cases measured : length.isFinite = true
  · rw [← value] at below
    rw [if_pos measured, round?_eq_ok ((isFinite_mul measured finite).2 below), nearestInt,
      isNegative_mul measured finite, magnitude_mul measured finite below, sign, value,
      Bool.xor_false]
    rfl
  · rw [if_neg measured, dotCount, magnitude_of_not_isFinite measured, zero_mul, rounded_zero]
    simp [roundRational]

/-- A rotation can be used unless it is an integer beyond all doubles. -/
theorem succeeds_ofRotation {rotation : Option Number} :
    Succeeds (Orientation.ofRotation rotation) ↔
      ∀ degrees, rotation = some (.integer degrees) →
        (degrees.natAbs : ℚ) < overflowBound := by
  cases rotation with
  | none => simp [Orientation.ofRotation]
  | some number =>
      cases number with
      | integer degrees =>
          simp only [Option.some.injEq, Number.integer.injEq, forall_eq']
          constructor
          · rintro ⟨orientation, made⟩
            obtain ⟨finite, tested, -⟩ := bind_eq_ok.1 made
            obtain ⟨double, made, -⟩ := map_eq_ok.1 tested
            exact succeeds_ofInt?.1 ⟨double, made⟩
          · intro below
            have finite := isFinite_ofInt.2 below
            refine ⟨.ofDegrees (Double.ofInt degrees).nearestInt, ?_⟩
            rw [Orientation.ofRotation, Number.isFinite?, Number.round?, ofInt?_eq_ok below]
            change (do return Orientation.ofDegrees (← (Double.ofInt degrees).round?)) = _
            rw [round?_eq_ok finite]
            rfl
      | real degrees =>
          simp only [Option.some.injEq, reduceCtorEq, false_imp_iff, implies_true, iff_true]
          by_cases finite : degrees.isFinite = true
          · refine ⟨.ofDegrees degrees.nearestInt, ?_⟩
            rw [Orientation.ofRotation, Number.isFinite?, Number.round?, finite,
              round?_eq_ok finite]
            rfl
          · refine ⟨.normal, ?_⟩
            rw [Orientation.ofRotation, Number.isFinite?, Bool.eq_false_of_not_eq_true finite]
            rfl

end LabelPress
