import LabelPress.Print.Fit
import LabelPress.Proofs.Number.Double

/-!
# Trying font heights

Which font heights can be tried on a text at all.  The arithmetic of a trial fails only
for heights or texts at the very end of the doubles, and a smaller height never asks for
more, so a search downwards can fail only at its first trial.
-/

namespace LabelPress
namespace Fit

open Double

/-- The estimated width of a character in dots. -/
def characterWidth (height : Int) : Int :=
  max (roundRational .awayFromZero (rounded (rounded height * widthRatio.magnitude))) 1

/-- The number of characters on a line. -/
def perLine (boxWidth height : Int) : Int :=
  max (boxWidth / characterWidth height) 1

/-- The arithmetic of a trial stays within the doubles. -/
structure Tries
    (length : Nat)
    (boxWidth height : Int) : Prop where
  lineHeight : rounded height * lineRatio.magnitude < overflowBound
  lineCount : (length : ℚ) / perLine boxWidth height < overflowBound

theorem magnitude_tenths
    {tenths : Nat}
    (short : tenths < 2 ^ 53) :
    (nearest false tenths 10).magnitude = rounded (tenths / 10) := by
  have smaller : (tenths : ℚ) / (10 : Nat) ≤ tenths :=
    div_le_self (Nat.cast_nonneg _) (by norm_num)
  have below := smaller.trans_lt (lt_overflowBound_of_short short)
  simpa using @magnitude_nearest false tenths 10 (by norm_num) below

theorem magnitude_widthRatio :
    widthRatio.magnitude = rounded (6 / 10) := by
  simpa [widthRatio] using @magnitude_tenths 6 (by norm_num)

theorem magnitude_lineRatio :
    lineRatio.magnitude = rounded (12 / 10) := by
  simpa [lineRatio] using @magnitude_tenths 12 (by norm_num)

theorem one_le_lineRatio :
    1 ≤ lineRatio.magnitude := by
  have one : rounded ((1 : Nat) : ℚ) = (1 : Nat) := rounded_natCast (by norm_num)
  have le := rounded_mono (x := ((1 : Nat) : ℚ)) (y := 12 / 10) (by norm_num) (by norm_num)
  rw [one, ← magnitude_lineRatio] at le
  exact_mod_cast le

theorem widthRatio_le_lineRatio :
    widthRatio.magnitude ≤ lineRatio.magnitude := by
  rw [magnitude_widthRatio, magnitude_lineRatio]
  exact rounded_mono (by norm_num) (by norm_num)

variable {length : Nat} {text : Text} {boxWidth boxHeight height smaller : Int}

/-- A height scaled by a positive ratio. -/
theorem scaled_eq_ok
    {ratio : Double}
    (nonnegative : 0 ≤ height)
    (finite : ratio.isFinite = true)
    (sign : ratio.isNegative = false)
    (exists_double : (height : ℚ) < overflowBound)
    (below : rounded height * ratio.magnitude < overflowBound) :
    scaled height ratio =
      .ok (roundRational .awayFromZero (rounded (rounded height * ratio.magnitude))) := by
  rw [← cast_natAbs_of_nonneg nonnegative] at exists_double below ⊢
  have finite' := isFinite_ofInt.2 exists_double
  rw [← magnitude_ofInt exists_double] at below ⊢
  have product := (isFinite_mul finite' finite).2 below
  have positive : ((Double.ofInt height).mul ratio).isNegative = false := by
    rw [isNegative_mul finite' finite, isNegative_ofInt, sign]
    simpa using nonnegative
  rw [scaled, ofInt?_eq_ok exists_double]
  change ((Double.ofInt height).mul ratio).round? = _
  rw [round?_eq_ok product, nearestInt, positive, magnitude_mul finite' finite below]
  rfl

theorem succeeds_scaled
    {ratio : Double}
    (nonnegative : 0 ≤ height)
    (finite : ratio.isFinite = true) :
    Succeeds (scaled height ratio) ↔
      (height : ℚ) < overflowBound ∧ rounded height * ratio.magnitude < overflowBound := by
  rw [scaled, Succeeds.bind_iff, ← cast_natAbs_of_nonneg nonnegative]
  constructor
  · rintro ⟨double, made, product⟩
    have inside := succeeds_ofInt?.1 ⟨double, made⟩
    rw [ofInt?_eq_ok inside] at made
    cases made
    rw [succeeds_round?, isFinite_mul (isFinite_ofInt.2 inside) finite,
      magnitude_ofInt inside] at product
    exact ⟨inside, product⟩
  · rintro ⟨inside, product⟩
    refine ⟨_, ofInt?_eq_ok inside, ?_⟩
    rw [succeeds_round?, isFinite_mul (isFinite_ofInt.2 inside) finite,
      magnitude_ofInt inside]
    exact product

/-- A height whose line height stays within the doubles is itself one of them. -/
theorem lt_of_lineHeight
    (nonnegative : 0 ≤ height)
    (below : rounded height * lineRatio.magnitude < overflowBound) :
    (height : ℚ) < overflowBound := by
  apply lt_of_rounded_lt (by exact_mod_cast nonnegative)
  exact (le_mul_of_one_le_right (rounded_nonneg _) one_le_lineRatio).trans_lt below

theorem one_le_perLine (boxWidth height : Int) :
    1 ≤ perLine boxWidth height :=
  le_max_right _ _

theorem lineCount_quotient
    (length : Nat)
    (boxWidth height : Int) :
    (length : ℚ) / ((perLine boxWidth height).toNat : Nat) =
      length / perLine boxWidth height := by
  have positive := one_le_perLine boxWidth height
  congr 1
  exact_mod_cast Int.toNat_of_nonneg (by omega)

/-- A trial comes out if and only if its arithmetic stays within the doubles. -/
theorem succeeds_fits
    (positive : 1 ≤ height)
    (boxHeight : Int) :
    Succeeds (fits text boxWidth boxHeight height) ↔ Tries text.length boxWidth height := by
  have nonnegative : 0 ≤ height := by omega
  constructor
  · intro succeeds
    obtain ⟨width, measured, succeeds⟩ := Succeeds.bind_iff.1 succeeds
    obtain ⟨lines, counted, succeeds⟩ := Succeeds.bind_iff.1 succeeds
    obtain ⟨line, high, -⟩ := Succeeds.bind_iff.1 succeeds
    have narrow := ((succeeds_scaled nonnegative rfl).1 ⟨width, measured⟩).2
    have inside := (succeeds_scaled nonnegative rfl).1 ⟨line, high⟩
    rw [scaled_eq_ok nonnegative rfl rfl inside.1 narrow] at measured
    cases measured
    refine ⟨inside.2, ?_⟩
    have finite := succeeds_ceiling?.1 ⟨lines, counted⟩
    change (nearest false text.length (perLine boxWidth height).toNat).isFinite = true at finite
    have positive := one_le_perLine boxWidth height
    rwa [isFinite_nearest (by omega), lineCount_quotient] at finite
  · intro tries
    have inside := lt_of_lineHeight nonnegative tries.lineHeight
    have narrow : rounded height * widthRatio.magnitude < overflowBound :=
      (mul_le_mul_of_nonneg_left widthRatio_le_lineRatio (rounded_nonneg _)).trans_lt
        tries.lineHeight
    have width := scaled_eq_ok nonnegative rfl rfl inside narrow
    have line := scaled_eq_ok nonnegative rfl rfl inside tries.lineHeight
    have lines : Succeeds (lineCount text.length (perLine boxWidth height)) := by
      have positive := one_le_perLine boxWidth height
      rw [lineCount, succeeds_ceiling?, isFinite_nearest (by omega), lineCount_quotient]
      exact tries.lineCount
    obtain ⟨count, counted⟩ := lines
    apply Succeeds.bind_iff.2
    refine ⟨_, width, ?_⟩
    apply Succeeds.bind_iff.2
    refine ⟨count, counted, ?_⟩
    apply Succeeds.bind_iff.2
    exact ⟨_, line, .pure _⟩

theorem rounded_mul_mono
    (positive : 1 ≤ smaller)
    (le : smaller ≤ height)
    (ratio : Double) :
    rounded smaller * ratio.magnitude ≤ rounded height * ratio.magnitude := by
  have nonnegative : 0 ≤ smaller := by omega
  apply mul_le_mul_of_nonneg_right _ (magnitude_nonneg ratio)
  apply rounded_mono
  · exact_mod_cast nonnegative
  · exact_mod_cast le

/-- A smaller height leaves room for at least as many characters. -/
theorem characterWidth_mono
    (positive : 1 ≤ smaller)
    (le : smaller ≤ height) :
    characterWidth smaller ≤ characterWidth height := by
  have products := rounded_mul_mono positive le widthRatio
  have widths := roundRational_mono .awayFromZero (rounded_nonneg _)
    (rounded_mono (mul_nonneg (rounded_nonneg _) (magnitude_nonneg _)) products)
  unfold characterWidth
  omega

theorem perLine_anti
    (positive : 1 ≤ smaller)
    (le : smaller ≤ height) :
    perLine boxWidth height ≤ perLine boxWidth smaller := by
  have widths := characterWidth_mono positive le
  have one : 1 ≤ characterWidth smaller := le_max_right _ _
  unfold perLine
  rcases Int.le_total 0 boxWidth with wide | negative
  · have quotients : boxWidth / characterWidth height ≤ boxWidth / characterWidth smaller := by
      apply (Int.le_ediv_iff_mul_le (by omega)).2
      calc boxWidth / characterWidth height * characterWidth smaller
          ≤ boxWidth / characterWidth height * characterWidth height :=
            Int.mul_le_mul_of_nonneg_left widths (Int.ediv_nonneg wide (by omega))
        _ ≤ boxWidth := Int.ediv_mul_le _ (by omega)
    omega
  · have none : boxWidth / characterWidth height ≤ 0 :=
      Int.ediv_nonpos_of_nonpos_of_neg negative (by omega)
    omega

theorem Tries.mono
    (tries : Tries length boxWidth height)
    (positive : 1 ≤ smaller)
    (le : smaller ≤ height) :
    Tries length boxWidth smaller where
  lineHeight := (rounded_mul_mono positive le lineRatio).trans_lt tries.lineHeight
  lineCount := by
    have lines : (perLine boxWidth height : ℚ) ≤ perLine boxWidth smaller := by
      exact_mod_cast perLine_anti positive le
    have one : (0 : ℚ) < perLine boxWidth height := by
      exact_mod_cast (by have := one_le_perLine boxWidth height; omega)
    exact (div_le_div_of_nonneg_left (Nat.cast_nonneg _) one lines).trans_lt tries.lineCount

section Descend

variable {fitting : Int → Except NumericFault Bool} {least : Int} {steps : Nat}

theorem succeeds_of_descend
    (succeeds : Succeeds (descend fitting least steps)) :
    Succeeds (fitting (least + steps)) := by
  cases steps with
  | zero =>
      obtain ⟨fits, tried, -⟩ := Succeeds.bind_iff.1 succeeds
      exact ⟨fits, by simpa using tried⟩
  | succ steps =>
      obtain ⟨fits, tried, -⟩ := Succeeds.bind_iff.1 succeeds
      exact ⟨fits, tried⟩

theorem succeeds_descend
    (each : ∀ fewer ≤ steps, Succeeds (fitting (least + (fewer : Nat)))) :
    Succeeds (descend fitting least steps) := by
  induction steps with
  | zero =>
      obtain ⟨fits, tried⟩ := each 0 le_rfl
      apply Succeeds.bind_iff.2
      refine ⟨fits, ?_, .pure _⟩
      simpa using tried
  | succ steps inductionHypothesis =>
      obtain ⟨fits, tried⟩ := each (steps + 1) le_rfl
      apply Succeeds.bind_iff.2
      refine ⟨fits, tried, ?_⟩
      split
      · exact .pure _
      · apply inductionHypothesis
        intro fewer le
        exact each fewer (by omega)

end Descend

/-- A font height is found if and only if the wanted one is too small or can be tried. -/
theorem succeeds_fontHeight
    {wanted least : Int}
    (positive : 1 ≤ least)
    (boxHeight : Int) :
    Succeeds (fontHeight text boxWidth boxHeight wanted least) ↔
      (least ≤ wanted → Tries text.length boxWidth wanted) := by
  unfold fontHeight
  split
  · rename_i small
    apply iff_of_true (.ok least)
    intro reaches
    omega
  · rename_i reaches
    have top : least + ((wanted - least).toNat : Int) = wanted := by omega
    constructor
    · intro succeeds _
      have first := succeeds_of_descend succeeds
      rw [top] at first
      exact (succeeds_fits (by omega) boxHeight).1 first
    · intro tries
      apply succeeds_descend
      intro fewer le
      rw [succeeds_fits (by omega)]
      exact (tries (by omega)).mono (by omega) (by omega)

end Fit
end LabelPress
