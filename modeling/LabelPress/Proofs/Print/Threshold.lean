import LabelPress.Proofs.Print.Fit

/-!
# The greatest font height that fits

Where the search for a font height stops.  A text never gets lower when its font grows, so
the heights that fit lie below all others and the first one that fits from above is the
greatest.  Main statement: the search finds this height, or the least one if none fits; and
the height that it finds never falls when the box grows and never rises when the text does.

A threshold is known by the trials alone, so the last part needs no second look at the
search: what fits a smaller box or a longer text fits the other one as well.
-/

namespace LabelPress
namespace Fit

open Double

/-- The number of lines that a text of some length takes. -/
def lines
    (length : Nat)
    (boxWidth height : Int) : Nat :=
  ⌈rounded (length / perLine boxWidth height)⌉₊

/-- The height of a line in dots. -/
def lineDots (height : Int) : Nat :=
  roundRational .awayFromZero (rounded (rounded height * lineRatio.magnitude))

/-- The height of all lines of a text in dots. -/
def textDots
    (length : Nat)
    (boxWidth height : Int) : Nat :=
  lines length boxWidth height * lineDots height

section Trial

variable {text : Text} {length longer : Nat} {boxWidth narrower boxHeight height smaller : Int}

theorem lineCount_eq_ok
    (below : (length : ℚ) / perLine boxWidth height < overflowBound) :
    lineCount length (perLine boxWidth height) = .ok (lines length boxWidth height : Int) := by
  have positive : 0 < (perLine boxWidth height).toNat := by
    have one := one_le_perLine boxWidth height
    omega
  rw [← lineCount_quotient] at below
  have value := @magnitude_nearest false length (perLine boxWidth height).toNat positive below
  have finite := (@isFinite_nearest false length (perLine boxWidth height).toNat positive).2 below
  have sign := @isNegative_nearest false length (perLine boxWidth height).toNat positive
  rw [lineCount, ceiling?_eq_ok finite sign, value, lineCount_quotient]
  rfl

/-- A trial compares the height of the text with that of the box. -/
theorem fits_eq_ok
    (positive : 1 ≤ height)
    (tries : Tries text.length boxWidth height)
    (boxHeight : Int) :
    fits text boxWidth boxHeight height =
      .ok (decide ((textDots text.length boxWidth height : Int) ≤ boxHeight)) := by
  have nonnegative : 0 ≤ height := by omega
  have inside := lt_of_lineHeight nonnegative tries.lineHeight
  have narrow : rounded height * widthRatio.magnitude < overflowBound :=
    (mul_le_mul_of_nonneg_left widthRatio_le_lineRatio (rounded_nonneg _)).trans_lt
      tries.lineHeight
  have width := scaled_eq_ok nonnegative rfl rfl inside narrow
  have line := scaled_eq_ok nonnegative rfl rfl inside tries.lineHeight
  have count := lineCount_eq_ok tries.lineCount
  rw [fits, width, line]
  change (do
    let lines ← lineCount text.length (perLine boxWidth height)
    return decide (lines * (lineDots height : Int) ≤ boxHeight)) = _
  rw [count, textDots, Nat.cast_mul]
  rfl

/-- A narrower box leaves room for at most as many characters. -/
theorem perLine_mono
    (le : narrower ≤ boxWidth)
    (height : Int) :
    perLine narrower height ≤ perLine boxWidth height := by
  have one : 1 ≤ characterWidth height := le_max_right _ _
  have quotients : narrower / characterWidth height ≤ boxWidth / characterWidth height :=
    Int.ediv_le_ediv (by omega) le
  unfold perLine
  omega

/-- A longer text in a greater font and a narrower box takes at least as many lines. -/
theorem lines_mono
    (positive : 1 ≤ smaller)
    (grows : smaller ≤ height)
    (narrows : narrower ≤ boxWidth)
    (lengthens : length ≤ longer) :
    lines length boxWidth smaller ≤ lines longer narrower height := by
  have room : perLine narrower height ≤ perLine boxWidth smaller :=
    (perLine_mono narrows height).trans (perLine_anti positive grows)
  have one : (0 : ℚ) < perLine narrower height := by
    exact_mod_cast (by have := one_le_perLine narrower height; omega)
  have room' : (perLine narrower height : ℚ) ≤ perLine boxWidth smaller := by
    exact_mod_cast room
  have lengthens' : (length : ℚ) ≤ longer := by exact_mod_cast lengthens
  have quotients :
      (length : ℚ) / perLine boxWidth smaller ≤ longer / perLine narrower height :=
    div_le_div₀ (Nat.cast_nonneg _) lengthens' one room'
  apply Nat.ceil_mono
  apply rounded_mono _ quotients
  exact div_nonneg (Nat.cast_nonneg _) (one.le.trans room')

theorem lineDots_mono
    (positive : 1 ≤ smaller)
    (grows : smaller ≤ height) :
    lineDots smaller ≤ lineDots height := by
  have products := rounded_mul_mono positive grows lineRatio
  apply roundRational_mono .awayFromZero (rounded_nonneg _)
  exact rounded_mono (mul_nonneg (rounded_nonneg _) (magnitude_nonneg _)) products

theorem textDots_mono
    (positive : 1 ≤ smaller)
    (grows : smaller ≤ height)
    (narrows : narrower ≤ boxWidth)
    (lengthens : length ≤ longer) :
    textDots length boxWidth smaller ≤ textDots longer narrower height :=
  Nat.mul_le_mul (lines_mono positive grows narrows lengthens) (lineDots_mono positive grows)

/-- Heights below `2 ^ 50` can be tried on every text that is shorter than the doubles reach. -/
theorem tries_of_short
    (positive : 1 ≤ height)
    (small : height < 2 ^ 50)
    (short : length < 2 ^ 1023)
    (boxWidth : Int) :
    Tries length boxWidth height where
  lineHeight := by
    obtain ⟨size, rfl⟩ := Int.eq_ofNat_of_zero_le (Int.le_trans Int.one_nonneg positive)
    have size' : size < 2 ^ 50 := by exact_mod_cast small
    have kept : rounded (((size : Nat) : Int) : ℚ) = size := by
      rw [Int.cast_natCast]
      exact rounded_natCast (by omega)
    have two : rounded ((2 : Nat) : ℚ) = (2 : Nat) := rounded_natCast (by norm_num)
    have ratio := @rounded_mono (12 / 10) ((2 : Nat) : ℚ) (by norm_num) (by norm_num)
    rw [two, ← magnitude_lineRatio] at ratio
    have product : size * 2 < 2 ^ 53 := by omega
    calc rounded (((size : Nat) : Int) : ℚ) * lineRatio.magnitude
        ≤ (size : ℚ) * (2 : Nat) := by
          rw [kept]
          exact mul_le_mul_of_nonneg_left ratio (Nat.cast_nonneg _)
      _ < overflowBound := by exact_mod_cast lt_overflowBound_of_short product
  lineCount := by
    have one : (1 : ℚ) ≤ perLine boxWidth height := by
      exact_mod_cast one_le_perLine boxWidth height
    have power : (2 : ℚ) ^ (1023 : Nat) ≤ overflowBound := by
      rw [overflowBound, ← zpow_natCast]
      have exponent : ((1023 : Nat) : Int) = (53 : Nat) + 970 := rfl
      rw [exponent, zpow_add₀ two_ne_zero, zpow_natCast]
      exact mul_le_mul_of_nonneg_right (by norm_num) (zpow_pos two_pos _).le
    have short' : (length : ℚ) < 2 ^ (1023 : Nat) := by exact_mod_cast short
    exact (div_le_self (Nat.cast_nonneg _) one).trans_lt (short'.trans_le power)

end Trial

/-! ## Thresholds -/

/--
A size parts those that fit from those that do not: between two bounds all greater sizes are
too great, and all others fit, unless it is the lower bound and none of the sizes fits.
-/
structure IsThreshold
    (fitting : Int → Except NumericFault Bool)
    (least wanted size : Int) : Prop where
  least_le : least ≤ size
  le_wanted : size ≤ wanted
  above : ∀ greater, size < greater → greater ≤ wanted → fitting greater = .ok false
  below :
    (∀ smaller, least ≤ smaller → smaller ≤ size → fitting smaller = .ok true) ∨
      size = least ∧ ∀ other, least ≤ other → other ≤ wanted → fitting other = .ok false

section Search

variable {fitting otherFitting : Int → Except NumericFault Bool}
  {least wanted size otherSize : Int} {steps : Nat} {fitsAt : Int → Bool}

/-- What fits on one side fits on the other, so the threshold there is not below. -/
theorem IsThreshold.le
    (threshold : IsThreshold fitting least wanted size)
    (otherThreshold : IsThreshold otherFitting least wanted otherSize)
    (eases : ∀ height, least ≤ height → height ≤ wanted →
      fitting height = .ok true → otherFitting height = .ok true) :
    size ≤ otherSize := by
  rcases threshold.below with fit | ⟨rfl, -⟩
  · by_contra lower
    have here := fit size threshold.least_le (Int.le_refl size)
    have there := eases size threshold.least_le threshold.le_wanted here
    rw [otherThreshold.above size (Int.not_le.1 lower) threshold.le_wanted] at there
    cases there
  · exact otherThreshold.least_le

/-- Going down from the wanted size, the first one that fits is the threshold. -/
theorem isThreshold_of_descend
    (tried : ∀ height, least ≤ height → height ≤ least + steps →
      fitting height = .ok (fitsAt height))
    (closed : ∀ smaller height, least ≤ smaller → smaller ≤ height →
      height ≤ least + steps → fitsAt height = true → fitsAt smaller = true)
    (found : descend fitting least steps = .ok size) :
    IsThreshold fitting least (least + steps) size := by
  induction steps with
  | zero =>
      have last : fitting least = .ok (fitsAt least) :=
        tried least (Int.le_refl least) (by omega)
      have same : size = least := by
        rw [descend, last] at found
        exact (Except.ok.inj found).symm
      subst same
      refine ⟨Int.le_refl _, by omega, fun greater above le => by omega, ?_⟩
      cases outcome : fitsAt size with
      | true =>
          left
          intro smaller above below
          obtain rfl : smaller = size := by omega
          rw [last, outcome]
      | false =>
          right
          refine ⟨rfl, fun other above below => ?_⟩
          obtain rfl : other = size := by omega
          rw [last, outcome]
  | succ steps inductionHypothesis =>
      have top : fitting (least + (steps + 1 : Nat)) = .ok (fitsAt (least + (steps + 1 : Nat))) :=
        tried _ (by omega) (Int.le_refl _)
      rw [descend, top] at found
      cases outcome : fitsAt (least + (steps + 1 : Nat)) with
      | true =>
          rw [outcome] at found
          cases found
          refine ⟨by omega, Int.le_refl _, fun greater above le => by omega, Or.inl ?_⟩
          intro smaller above below
          rw [tried smaller above below, closed _ _ above below (Int.le_refl _) outcome]
      | false =>
          rw [outcome] at found
          have rest :=
            inductionHypothesis
              (fun height above below => tried height above (by omega))
              (fun smaller height above le below => closed smaller height above le (by omega))
              found
          -- The size that was just tried joins those above the threshold.
          have refused : ∀ height, least + steps < height → height ≤ least + (steps + 1 : Nat) →
              fitting height = .ok false := by
            intro height above below
            obtain rfl : height = least + (steps + 1 : Nat) := by omega
            rw [top, outcome]
          refine ⟨rest.least_le, by have := rest.le_wanted; omega, ?_, ?_⟩
          · intro greater above le
            rcases Int.lt_or_le (least + steps) greater with beyond | within
            · exact refused greater beyond le
            · exact rest.above greater above within
          · rcases rest.below with fit | ⟨same, none⟩
            · exact Or.inl fit
            · refine Or.inr ⟨same, fun other above le => ?_⟩
              rcases Int.lt_or_le (least + steps) other with beyond | within
              · exact refused other beyond le
              · exact none other above within

end Search

section FontHeight

variable {text other : Text} {boxWidth boxHeight otherWidth otherHeight wanted least height : Int}

/-- The height that the search finds is a threshold. -/
theorem isThreshold_of_fontHeight
    (positive : 1 ≤ least)
    (le : least ≤ wanted)
    (found : fontHeight text boxWidth boxHeight wanted least = .ok height) :
    IsThreshold (fits text boxWidth boxHeight) least wanted height := by
  have tries : Tries text.length boxWidth wanted :=
    (succeeds_fontHeight positive boxHeight).1 ⟨height, found⟩ le
  have top : least + ((wanted - least).toNat : Int) = wanted := by omega
  rw [fontHeight, if_neg (Int.not_lt.2 le)] at found
  have threshold :=
    isThreshold_of_descend
      (fun size above below =>
        fits_eq_ok (by omega) (tries.mono (by omega) (by omega)) boxHeight)
      (fun smaller size above grows below fit => by
        have lower := @textDots_mono text.length text.length boxWidth boxWidth size smaller
          (by omega) grows (Int.le_refl _) (Nat.le_refl _)
        rw [decide_eq_true_iff] at fit ⊢
        omega)
      found
  rwa [top] at threshold

/-- What fits a box fits a greater one, and so does a shorter text. -/
theorem fits_of_fits
    (positive : 1 ≤ height)
    (tries : Tries text.length boxWidth height)
    (otherTries : Tries other.length otherWidth height)
    (shorter : other.length ≤ text.length)
    (wider : boxWidth ≤ otherWidth)
    (higher : boxHeight ≤ otherHeight)
    (fit : fits text boxWidth boxHeight height = .ok true) :
    fits other otherWidth otherHeight height = .ok true := by
  have dots := textDots_mono positive (Int.le_refl height) wider shorter
  rw [fits_eq_ok positive tries, Except.ok.injEq, decide_eq_true_iff] at fit
  rw [fits_eq_ok positive otherTries, Except.ok.injEq, decide_eq_true_iff]
  omega

/--
Between two bounds the search finds the height that parts those that fit from those that do
not, and with another text that is no longer and another box that is no smaller it finds no
smaller height.  It finds one for every text of fewer than `2 ^ 1023` characters.
-/
theorem fontHeight_threshold
    (text : Text)
    (boxWidth boxHeight : Int)
    {wanted least : Int}
    (positive : 1 ≤ least)
    (le : least ≤ wanted) :
    (wanted < 2 ^ 50 → text.length < 2 ^ 1023 →
        Succeeds (fontHeight text boxWidth boxHeight wanted least)) ∧
      ∀ height, fontHeight text boxWidth boxHeight wanted least = .ok height →
        IsThreshold (fits text boxWidth boxHeight) least wanted height ∧
          ∀ (other : Text) (otherWidth otherHeight found : Int),
            other.length ≤ text.length → boxWidth ≤ otherWidth → boxHeight ≤ otherHeight →
              fontHeight other otherWidth otherHeight wanted least = .ok found →
                height ≤ found := by
  constructor
  · intro small short
    rw [succeeds_fontHeight positive]
    intro _
    exact tries_of_short (by omega) small short boxWidth
  · intro height made
    have threshold := isThreshold_of_fontHeight positive le made
    refine ⟨threshold, ?_⟩
    intro other otherWidth otherHeight found shorter wider higher otherMade
    have tries := (succeeds_fontHeight positive boxHeight).1 ⟨height, made⟩ le
    have otherTries := (succeeds_fontHeight positive otherHeight).1 ⟨found, otherMade⟩ le
    apply threshold.le (isThreshold_of_fontHeight positive le otherMade)
    intro size above below fit
    have positiveSize : 1 ≤ size := by omega
    exact fits_of_fits positiveSize (tries.mono positiveSize below)
      (otherTries.mono positiveSize below) shorter wider higher fit

theorem fontHeight_threshold_thirteen_characters :
    let text := "0123456789".toList
    let longer := "0123456789ABC".toList
    1 ≤ (6 : Int) ∧ (6 : Int) ≤ 24 ∧
      fontHeight text 60 40 24 6 = .ok 17 ∧
      IsThreshold (fits text 60 40) 6 24 17 ∧
      fits text 60 40 17 = .ok true ∧
      fits text 60 40 18 = .ok false ∧
      fontHeight longer 60 40 24 6 = .ok 14 ∧
      fontHeight text 70 60 24 6 = .ok 24 ∧
      (14 : Int) ≤ 17 ∧
      (17 : Int) ≤ 24 ∧
      IsThreshold (fits text (-3) (-5)) 6 24 6 := by
  intro text longer
  have positive : 1 ≤ (6 : Int) := by decide
  have le : (6 : Int) ≤ 24 := by decide
  have found : fontHeight text 60 40 24 6 = .ok 17 := by decide +kernel
  have narrow : fontHeight longer 60 40 24 6 = .ok 14 := by decide +kernel
  have wide : fontHeight text 70 60 24 6 = .ok 24 := by decide +kernel
  have negative : fontHeight text (-3) (-5) 24 6 = .ok 6 := by decide +kernel
  obtain ⟨threshold, grows⟩ := (fontHeight_threshold text 60 40 positive le).2 17 found
  obtain ⟨-, shrinks⟩ := (fontHeight_threshold longer 60 40 positive le).2 14 narrow
  obtain ⟨least, -⟩ := (fontHeight_threshold text (-3) (-5) positive le).2 6 negative
  refine ⟨positive, le, found, threshold, by decide +kernel, by decide +kernel, narrow, wide,
    ?_, ?_, least⟩
  · exact shrinks text 60 40 17 (by decide) (Int.le_refl _) (Int.le_refl _) found
  · exact grows text 70 60 24 (Nat.le_refl _) (by decide) (by decide) wide

end FontHeight
end Fit
end LabelPress
