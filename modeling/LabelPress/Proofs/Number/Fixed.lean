import LabelPress.Number.Fixed
import LabelPress.Proofs.Number.Literal
import LabelPress.Proofs.Number.Numeral
import LabelPress.Proofs.Number.Decimal
import LabelPress.Proofs.Text.Pass

/-!
# Numbers with fixed places

What a double looks like with a chosen number of decimal places.  Main statements: a finite
double is written in digits, as many of them behind the point as there are places, and the
text is a number again, which is finite; an infinity is written as no number.
-/

namespace LabelPress

open NumberLiteral Numeral

/-! ## Decimals in digits -/

/-- Digits behind a decimal mark; without digits there is no mark. -/
def fractionText
    (mark : Char)
    (fraction : Text) : Text :=
  if fraction = [] then [] else mark :: fraction

/-- A decimal in digits. -/
def decimalText
    (mark : Char)
    (negative : Bool)
    (whole fraction : Text) : Text :=
  (if negative then ['-'] else []) ++ (whole ++ fractionText mark fraction)

/-- Digits before and behind a point, the first of them not empty. -/
structure DecimalDigits (whole fraction : Text) : Prop where
  /-- There is a digit before the point. -/
  nonempty : whole ≠ []
  /-- Digits stand before the point. -/
  whole_isDigit : ∀ c ∈ whole, c.isDigit
  /-- Digits stand behind the point. -/
  fraction_isDigit : ∀ c ∈ fraction, c.isDigit

namespace DecimalDigits

variable {whole fraction zeros : Text} (digits : DecimalDigits whole fraction)

include digits

theorem scanFraction_fractionText :
    scanFraction (fractionText '.' fraction) = (Text.digitValues fraction, []) := by
  cases fraction with
  | nil => rfl
  | cons c others =>
      have all := Text.AllDigits.ofAscii digits.fraction_isDigit
      obtain ⟨digit, -, -, -, values⟩ := all.digitValues_cons
      rw [fractionText, if_neg (List.cons_ne_nil _ _), scanFraction,
        scanDigits_of_allDigits all, values]

/-- A decimal in digits is a literal as a whole. -/
theorem scan?_decimalText (negative : Bool) :
    scan? (decimalText '.' negative whole fraction) =
      some (⟨negative, Text.digitValues whole, Text.digitValues fraction, false, []⟩, []) := by
  have all := Text.AllDigits.ofAscii digits.whole_isDigit
  obtain ⟨first, others, rfl⟩ := List.exists_cons_of_ne_nil digits.nonempty
  obtain ⟨digit, -, -, -, values⟩ := all.digitValues_cons
  have ends : scanDigits (fractionText '.' fraction) = ([], fractionText '.' fraction) := by
    unfold fractionText
    split <;> rfl
  have sign :
      scanSign (decimalText '.' negative (first :: others) fraction) =
        (negative, (first :: others) ++ fractionText '.' fraction) := by
    cases negative with
    | false => exact scanSign_cons (all _ List.mem_cons_self) _
    | true => rfl
  refine scan?_eq_some_iff.2 ⟨fractionText '.' fraction, congrArg Prod.fst sign, ?_, ?_, ?_, ?_⟩
  · rw [sign]
    exact scanDigits_append all ends
  · rw [values]
    exact List.cons_ne_nil _ _
  · rw [digits.scanFraction_fractionText]
  · rw [digits.scanFraction_fractionText]
    rfl

/-- Zeros behind the last place change neither the digits nor the point. -/
theorem append_zeros
    (count : Nat)
    (pointed : fraction ≠ [] ∨ count = 0) :
    DecimalDigits whole (fraction ++ List.replicate count '0') ∧
      ∀ mark negative,
        decimalText mark negative whole (fraction ++ List.replicate count '0') =
          decimalText mark negative whole fraction ++ List.replicate count '0' := by
  constructor
  · refine ⟨digits.nonempty, digits.whole_isDigit, fun c member => ?_⟩
    rcases List.mem_append.1 member with inside | zero
    · exact digits.fraction_isDigit c inside
    · rw [List.eq_of_mem_replicate zero]
      rfl
  · intro mark negative
    rcases pointed with nonempty | rfl
    · simp [decimalText, fractionText, nonempty]
    · simp

/-- Another mark in the place of the point. -/
theorem replaceAll_decimalText
    (mark : Char)
    (negative : Bool) :
    Text.replaceAll ['.'] [mark] (decimalText '.' negative whole fraction) =
      decimalText mark negative whole fraction := by
  have apart {text : Text} (isDigit : ∀ c ∈ text, c.isDigit) : ∀ c ∈ text, c ∉ ['.'] := by
    intro c member point
    rw [List.mem_singleton.1 point] at member
    exact absurd (isDigit _ member) (by decide)
  have sign : ∀ c ∈ if negative then ['-'] else [], c ∉ ['.'] := by
    cases negative <;> decide
  have behind : Text.replaceAll ['.'] [mark] fraction = fraction := by
    have kept := Text.replaceAll_append_of_apart (apart digits.fraction_isDigit) [mark] []
    rwa [List.append_nil, Text.replaceAll, List.append_nil] at kept
  unfold decimalText
  rw [Text.replaceAll_append_of_apart sign,
    Text.replaceAll_append_of_apart (apart digits.whole_isDigit)]
  congr 2
  unfold fractionText
  by_cases none : fraction = []
  · rw [if_pos none, if_pos none, Text.replaceAll]
  · have here : ['.'] <+: '.' :: fraction := ⟨fraction, rfl⟩
    rw [if_neg none, if_neg none, Text.replaceAll_cons_of_isPrefix (List.cons_ne_nil _ _) here]
    exact congrArg (mark :: ·) behind

/-- A character that is no digit and no sign occurs as the decimal mark only. -/
theorem count_decimalText
    {c : Char}
    (noDigit : c.isDigit = false)
    (noSign : c ≠ '-')
    (mark : Char)
    (negative : Bool) :
    (decimalText mark negative whole fraction).count c =
      if fraction ≠ [] ∧ c = mark then 1 else 0 := by
  have absent {text : Text} (isDigit : ∀ c ∈ text, c.isDigit) : text.count c = 0 := by
    refine List.count_eq_zero.2 fun member => ?_
    rw [isDigit c member] at noDigit
    cases noDigit
  have sign : (if negative then ['-'] else []).count c = 0 := by
    cases negative <;> simp [Ne.symm noSign]
  have behind := absent digits.fraction_isDigit
  rw [decimalText, List.count_append, List.count_append, sign, absent digits.whole_isDigit,
    fractionText]
  by_cases none : fraction = []
  · simp [none]
  · by_cases same : c = mark
    · subst same
      simp [none, behind]
    · simp [none, same, Ne.symm same, behind]

end DecimalDigits

namespace Double

variable {double : Double} {places : Nat} {text : Text}

/-! ## Finite doubles -/

/-- Digits that are cut before the last ones. -/
theorem decimalDigits_cut
    {digits : Text}
    (isDigit : ∀ c ∈ digits, c.isDigit)
    (long : places < digits.length) :
    DecimalDigits (digits.take (digits.length - places)) (digits.drop (digits.length - places)) ∧
      (digits.drop (digits.length - places)).length = places := by
  refine ⟨⟨?_, fun c member => ?_, fun c member => ?_⟩, ?_⟩
  · rw [ne_eq, List.take_eq_nil_iff, not_or]
    exact ⟨by omega, List.ne_nil_of_length_pos (by omega)⟩
  · exact isDigit c (List.mem_of_mem_take member)
  · exact isDigit c (List.mem_of_mem_drop member)
  · rw [List.length_drop]
    omega

/-- The digits around an inserted point. -/
theorem exists_digits_of_insertPoint (places scaled : Nat) :
    ∃ whole fraction, DecimalDigits whole fraction ∧ fraction.length = places ∧
      insertPoint places scaled = decimalText '.' false whole fraction ∧
      valueOf (whole ++ fraction) = scaled := by
  have isDigit : ∀ c ∈ padLeft (places + 1) '0' (ofNat scaled), c.isDigit :=
    isDigit_of_mem_padLeft fun _ => isDigit_of_mem_ofNat
  have long : places < (padLeft (places + 1) '0' (ofNat scaled)).length := by
    rw [length_padLeft]
    omega
  have value : valueOf (padLeft (places + 1) '0' (ofNat scaled)) = scaled := by
    rw [valueOf_padLeft, valueOf_ofNat]
  unfold insertPoint
  generalize padLeft (places + 1) '0' (ofNat scaled) = digits at isDigit long value
  obtain ⟨cut, back⟩ := decimalDigits_cut isDigit long
  refine ⟨_, _, cut, back, ?_, by rw [List.take_append_drop, value]⟩
  have none : digits.drop (digits.length - places) = [] ↔ places = 0 := by
    rw [← List.length_eq_zero_iff, back]
  simp only [decimalText, fractionText, none, Bool.false_eq_true, if_false, List.nil_append]
  split
  · exact (List.append_nil _).symm
  · rfl

/-- The exact number of places of a finite double, rounded to some of them. -/
theorem roundQuotient_places
    (significand : Nat)
    (exponent : Int)
    (places : Nat) :
    roundQuotient .toEven ((ratio significand exponent).1 * Nat.pow 10 places)
        (ratio significand exponent).2 =
      roundRational .toEven ((significand : ℚ) * 2 ^ exponent * 10 ^ places) := by
  have positive : 0 < (ratio significand exponent).2 := Nat.pow_pos two_pos
  rw [roundQuotient_eq _ _ positive, ← binary_quotient]
  congr 1
  simp only [ratio, Nat.pow_eq]
  push_cast
  ring

/--
A finite double is written in digits, as many behind the point as there are places, and is
rounded to as many places as it has.
-/
theorem exists_digits_of_fixed
    (finite : double.isFinite = true)
    (made : double.fixed places = .ok text) :
    ∃ whole fraction, DecimalDigits whole fraction ∧ fraction.length = places ∧
      text = decimalText '.' double.isNegative whole fraction ∧
      (valueOf (whole ++ fraction) : ℚ) / 10 ^ places =
        roundRational .toEven (double.magnitude * 10 ^ min places lastPlace) /
          10 ^ min places lastPlace := by
  cases double <;> simp only [isFinite, reduceCtorEq] at finite
  rename_i negative significand exponent canonical
  unfold fixed at made
  split at made
  · cases made
  simp only [roundQuotient_places, Except.ok.injEq] at made
  set exact := min places lastPlace with exact_eq
  set scaled := roundRational .toEven ((significand : ℚ) * 2 ^ exponent * 10 ^ exact)
  obtain ⟨whole, fraction, digits, length, inserted, value⟩ :=
    exists_digits_of_insertPoint exact scaled
  have pointed : fraction ≠ [] ∨ places - exact = 0 := by
    rcases Nat.eq_zero_or_pos (places - exact) with none | some
    · exact .inr none
    · left
      rw [← List.length_pos_iff, length]
      have last : 0 < lastPlace := by decide
      omega
  obtain ⟨filled, appended⟩ := digits.append_zeros (places - exact) pointed
  have count : exact + (places - exact) = places := by omega
  refine ⟨whole, fraction ++ List.replicate (places - exact) '0', filled, ?_, ?_, ?_⟩
  · rw [List.length_append, List.length_replicate, length, count]
  · rw [appended, ← made, inserted]
    cases negative <;> simp [decimalText, isNegative]
  · have zeros : (10 : ℚ) ^ (places - exact) ≠ 0 := by positivity
    rw [← List.append_assoc, valueOf_append, value, valueOf_replicate_zero,
      (allDigits_replicate_zero _).length_digitValues, List.length_replicate, magnitude]
    push_cast
    rw [add_zero, ← count, pow_add, Nat.add_sub_cancel_left, mul_div_mul_right _ _ zeros]

/-- Every finite double lies before the half way point by more than one. -/
theorem magnitude_add_one_le (double : Double) :
    double.magnitude + 1 ≤ overflowBound := by
  have power : (1 : ℚ) ≤ 2 ^ (970 : Int) := one_le_zpow₀ one_le_two (by norm_num)
  have bound : overflowBound = (2 ^ 53 - 1) * 2 ^ (971 : Int) + 2 ^ (970 : Int) := by
    rw [overflowBound, zpow_grid]
    ring
  have greatest : double.magnitude ≤ (2 ^ 53 - 1) * 2 ^ (971 : Int) := by
    cases double with
    | finite negative significand exponent canonical =>
        have short : (significand : ℚ) ≤ 2 ^ 53 - 1 := by
          rw [le_sub_iff_add_le]
          exact_mod_cast canonical.1
        have step : (2 : ℚ) ^ exponent ≤ 2 ^ (971 : Int) :=
          zpow_le_zpow_right₀ one_le_two canonical.2.2.1
        exact mul_le_mul short step (by positivity) (by norm_num)
    | nan => exact mul_nonneg (by norm_num) (by positivity)
    | infinite negative => exact mul_nonneg (by norm_num) (by positivity)
  rw [bound]
  exact add_le_add greatest power

/-- Fixed places move a number by a half at most. -/
theorem roundRational_places_le
    (double : Double)
    (places : Nat) :
    (roundRational .toEven (double.magnitude * 10 ^ places) : ℚ) / 10 ^ places ≤
      double.magnitude + 1 / 2 := by
  have power : (1 : ℚ) ≤ 10 ^ places := one_le_pow₀ (by norm_num)
  have nonnegative := mul_nonneg double.magnitude_nonneg (by positivity : (0 : ℚ) ≤ 10 ^ places)
  have close := (abs_le.1 (abs_roundRational_sub_le .toEven nonnegative)).2
  rw [div_le_iff₀ (by positivity)]
  linarith

/-- A finite double with fixed places is a number again, which is finite. -/
theorem parseNumber?_of_fixed
    (finite : double.isFinite = true)
    (made : double.fixed places = .ok text) :
    ∃ number, parseNumber? text = some number ∧ number.isFinite = true := by
  obtain ⟨whole, fraction, digits, length, rfl, value⟩ := exists_digits_of_fixed finite made
  have scanned := digits.scan?_decimalText double.isNegative
  set literal : NumberLiteral :=
    ⟨double.isNegative, Text.digitValues whole, Text.digitValues fraction, false, []⟩
  refine ⟨literal.value, parseNumber?_eq_some_iff.2 ⟨literal, scanned, rfl⟩, ?_⟩
  have count : literal.fraction.length = places := by
    rw [← length]
    exact (Text.AllDigits.ofAscii digits.fraction_isDigit).length_digitValues
  have joined : literal.whole ++ literal.fraction = Text.digitValues (whole ++ fraction) :=
    (List.filterMap_append ..).symm
  have size : literal.size = (valueOf (whole ++ fraction) : ℚ) / 10 ^ places := by
    rw [size_of_power_eq_zero rfl, count, joined, valueOf]
    push_cast
    rfl
  have moved := double.roundRational_places_le (min places lastPlace)
  have greatest := double.magnitude_add_one_le
  rw [literal.isNearest_value.isFinite_iff, size, value]
  linarith

/-! ## Infinities -/

/-- A double that is not finite is no number with any places, and has no decimal mark. -/
theorem fixed_of_not_isFinite
    (beyond : ¬ double.isFinite = true)
    (made : double.fixed places = .ok text) :
    parseNumber? text = none ∧
      Text.replaceAll ['.'] [','] text = text ∧ text.count ',' = 0 := by
  unfold fixed at made
  split at made
  · cases made
  cases double with
  | nan =>
      cases made
      decide +kernel
  | infinite negative =>
      cases made
      cases negative <;> decide +kernel
  | finite => exact absurd rfl beyond

end Double
end LabelPress
