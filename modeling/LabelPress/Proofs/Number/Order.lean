import LabelPress.Proofs.Number.Decimal
import LabelPress.Proofs.Number.Literal
import Mathlib.Order.Compare
import Mathlib.Order.WithBot

/-!
# The order of numbers

Where a double lies among the rational numbers with an infinity at either end.  Main
statements: two doubles compare as their places do, and a text that is a number as a whole
always has a place, so two such texts can be compared.
-/

namespace LabelPress
namespace Double

/-- The rational number that a finite double denotes. -/
def value (double : Double) : ℚ :=
  if double.isNegative then -double.magnitude else double.magnitude

/-- The place of a double between the two infinities; what is not a number has none. -/
def place? : Double → Option (WithBot (WithTop ℚ))
  | .nan => none
  | .infinite true => some ⊥
  | .infinite false => some ⊤
  | double => some ((double.value : WithTop ℚ) : WithBot (WithTop ℚ))

theorem value_eq_units
    {negative : Bool}
    {significand : Nat}
    {exponent : Int}
    (canonical : Canonical significand exponent) :
    (Double.finite negative significand exponent canonical).value =
      units negative significand exponent * 2 ^ (-1074 : Int) := by
  have steps : (exponent + 1074).toNat = exponent - (-1074) := by
    have least := canonical.2.1
    omega
  have power : (2 : ℚ) ^ exponent = 2 ^ (exponent + 1074).toNat * 2 ^ (-1074 : Int) := by
    rw [← zpow_natCast, steps, ← zpow_add₀ two_ne_zero]
    congr 1
    omega
  cases negative <;> simp [value, isNegative, magnitude, units, power, mul_assoc]

/-- Finite doubles compare as the values do that their units make up. -/
theorem compare_units
    {negative negative' : Bool}
    {significand significand' : Nat}
    {exponent exponent' : Int}
    (canonical : Canonical significand exponent)
    (canonical' : Canonical significand' exponent') :
    compare (units negative significand exponent) (units negative' significand' exponent') =
      cmp (Double.finite negative significand exponent canonical).value
        (Double.finite negative' significand' exponent' canonical').value := by
  have positive : (0 : ℚ) < 2 ^ (-1074 : Int) := zpow_pos two_pos _
  have grows : StrictMono fun n : Int => (n : ℚ) * 2 ^ (-1074 : Int) :=
    Int.cast_strictMono.mul_const positive
  rw [value_eq_units, value_eq_units, grows.cmp_map_eq, cmp_eq_compare]

/-- Doubles compare as their places do. -/
theorem compare?_eq_some
    {left right : Double}
    {x y : WithBot (WithTop ℚ)}
    (leftPlace : left.place? = some x)
    (rightPlace : right.place? = some y) :
    left.compare? right = some (cmp x y) := by
  have lower (z : ℚ) : (⊥ : WithBot (WithTop ℚ)) < (z : WithTop ℚ) := WithBot.bot_lt_coe _
  have upper (z : ℚ) : ((z : WithTop ℚ) : WithBot (WithTop ℚ)) < ⊤ :=
    WithBot.coe_lt_coe.2 (WithTop.coe_lt_top z)
  have embeds := WithBot.coe_strictMono.comp (@WithTop.coe_strictMono ℚ _)
  rcases left with _ | ⟨_ | _⟩ | ⟨negative, significand, exponent, canonical⟩ <;>
    rcases right with _ | ⟨_ | _⟩ | ⟨negative', significand', exponent', canonical'⟩ <;>
    simp only [place?, Option.some.injEq, reduceCtorEq] at leftPlace rightPlace <;>
    subst leftPlace rightPlace <;>
    apply congrArg some
  case infinite.false.infinite.false => exact (cmp_self_eq_eq ⊤).symm
  case infinite.true.infinite.true => exact (cmp_self_eq_eq ⊥).symm
  case infinite.false.infinite.true => exact ((cmp_eq_gt_iff _ _).2 bot_lt_top).symm
  case infinite.true.infinite.false => exact ((cmp_eq_lt_iff _ _).2 bot_lt_top).symm
  case infinite.false.finite => exact ((cmp_eq_gt_iff _ _).2 (upper _)).symm
  case infinite.true.finite => exact ((cmp_eq_lt_iff _ _).2 (lower _)).symm
  case finite.infinite.false => exact ((cmp_eq_lt_iff _ _).2 (upper _)).symm
  case finite.infinite.true => exact ((cmp_eq_gt_iff _ _).2 (lower _)).symm
  case finite.finite =>
    exact (compare_units canonical canonical').trans (embeds.cmp_map_eq _ _).symm

theorem exists_place
    {double : Double}
    (isNumber : double ≠ .nan) :
    ∃ place, double.place? = some place := by
  rcases double with _ | ⟨_ | _⟩ | _
  · exact absurd rfl isNumber
  · exact ⟨_, rfl⟩
  · exact ⟨_, rfl⟩
  · exact ⟨_, rfl⟩

end Double

/-- The place of a text that is a number as a whole. -/
def numberPlace? (text : Text) : Option (WithBot (WithTop ℚ)) :=
  (parseNumber? text).bind Double.place?

/-- A text that is a number as a whole has a place. -/
theorem exists_of_parseNumber?
    {text : Text}
    {double : Double}
    (parsed : parseNumber? text = some double) :
    ∃ place, double.place? = some place ∧ numberPlace? text = some place := by
  have isNumber : double ≠ .nan := by
    obtain ⟨literal, -, rfl⟩ := parseNumber?_eq_some_iff.1 parsed
    exact literal.isNearest_value.ne_nan
  obtain ⟨place, hasPlace⟩ := Double.exists_place isNumber
  exact ⟨place, hasPlace, by rw [numberPlace?, parsed, Option.bind_some, hasPlace]⟩

theorem numberPlace?_eq_none_iff
    {text : Text} :
    numberPlace? text = none ↔ parseNumber? text = none := by
  cases parsed : parseNumber? text with
  | none => simp [numberPlace?, parsed]
  | some double =>
      obtain ⟨place, -, found⟩ := exists_of_parseNumber? parsed
      simp [found]

end LabelPress
