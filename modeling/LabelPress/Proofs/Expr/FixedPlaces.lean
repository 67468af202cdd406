import LabelPress.Proofs.Expr.Counter
import LabelPress.Proofs.Number.Fixed

/-!
# Rounded numbers

What the functions that write numbers with fixed places give.  Main statement: what they give
is a number again, with one decimal mark if there are any places, exactly if the number that
they are given lies before the end of the doubles.
-/

namespace LabelPress
namespace Builtin

variable {arguments : List Text} {row : Row} {context : Context} {text formatted : Text}

/-- When a number is rounded, and what it is rounded to. -/
theorem callFunction_round_eq_ok_iff :
    callFunction Builtin.round.name arguments row context = .ok text ↔
      ∃ places : Int, leadingInteger (argumentAt arguments 1) 0 = .ok places ∧ 0 ≤ places ∧
        (leadingNumber (argumentAt arguments 0)).fixed places.toNat = .ok text := by
  rw [callFunction, ofName?_name]
  change applyRound arguments = .ok text ↔ _
  simp only [applyRound, bind_eq_ok, EvalFault.liftNumeric_eq_ok]
  apply exists_congr
  intro places
  apply and_congr_right
  intro _
  split
  · rename_i negative
    apply iff_of_false
    · intro impossible
      cases impossible
    · intro whole
      exact absurd whole.1 (not_le.2 negative)
  · rename_i whole
    rw [EvalFault.liftNumeric_eq_ok, and_iff_right (not_lt.1 whole)]

/-- A number with a comma is the rounded number with its point replaced. -/
theorem callFunction_formatNumber_of_round
    {value places : Text}
    (made : callFunction Builtin.round.name [value, places] row context = .ok text) :
    callFunction Builtin.formatNumber.name [value, places, [',']] row context =
      .ok (Text.replaceAll ['.'] [','] text) := by
  rw [callFunction, ofName?_name] at made ⊢
  change applyRound [value, places] = .ok text at made
  change applyFormatNumber [value, places, [',']] = _
  have same : applyRound [value, places, [',']] = applyRound [value, places] := rfl
  rw [applyFormatNumber, same, made]
  rfl

/--
A rounded number is a number as a whole, and then a finite one, exactly if the number that is
rounded lies before the end of the doubles.  With a comma as its mark and at least one place
it has one comma and no point under the same condition.
-/
theorem round_is_number_iff
    {value places : Text}
    (made : callFunction Builtin.round.name [value, places] row context = .ok text) :
    ((∃ number, parseNumber? text = some number) ↔ ¬ StartsBeyondDoubles value) ∧
      (∀ number, parseNumber? text = some number → number.isFinite = true) ∧
      ∃ formatted,
        callFunction Builtin.formatNumber.name [value, places, [',']] row context =
            .ok formatted ∧
          ∀ count, leadingInteger places 0 = .ok count → 0 < count →
            (formatted.count ',' = 1 ∧ formatted.count '.' = 0 ↔
              ¬ StartsBeyondDoubles value) := by
  obtain ⟨count, counted, -, written⟩ := callFunction_round_eq_ok_iff.1 made
  have marked := callFunction_formatNumber_of_round made
  change leadingInteger places 0 = .ok count at counted
  change (leadingNumber value).fixed count.toNat = .ok text at written
  rw [← isFinite_leadingNumber]
  by_cases finite : (leadingNumber value).isFinite = true
  · obtain ⟨number, parsed, numberFinite⟩ := Double.parseNumber?_of_fixed finite written
    obtain ⟨whole, fraction, digits, length, rfl, -⟩ :=
      Double.exists_digits_of_fixed finite written
    refine ⟨iff_of_true ⟨number, parsed⟩ finite, fun other again => ?_, _, marked,
      fun other again positive => iff_of_true ?_ finite⟩
    · cases parsed.symm.trans again
      exact numberFinite
    · cases counted.symm.trans again
      have some : fraction ≠ [] := by
        rw [← List.length_pos_iff, length]
        omega
      rw [digits.replaceAll_decimalText, digits.count_decimalText rfl (by decide),
        digits.count_decimalText rfl (by decide)]
      simp [some]
  · obtain ⟨noNumber, kept, noComma⟩ := Double.fixed_of_not_isFinite finite written
    refine ⟨iff_of_false ?_ finite, fun number parsed => ?_, _, marked,
      fun other again positive => iff_of_false ?_ finite⟩
    · rintro ⟨number, parsed⟩
      cases noNumber.symm.trans parsed
    · cases noNumber.symm.trans parsed
    · rw [kept, noComma]
      exact fun one => absurd one.1 (by decide)

theorem round_is_number_iff_negative :
    let value : Text := "-0.125 kg".toList
    let context : Context := ⟨0, 1, .midnight ⟨2026, 3, 15, by decide, by decide, by decide⟩⟩
    callFunction Builtin.round.name [value, "2".toList] [] context = .ok "-0.12".toList ∧
      callFunction Builtin.formatNumber.name [value, "2".toList, [',']] [] context =
        .ok "-0,12".toList ∧
      (∃ number, parseNumber? "-0.12".toList = some number) ∧ ¬ StartsBeyondDoubles value ∧
      "-0,12".toList.count ',' = 1 ∧ "-0,12".toList.count '.' = 0 := by
  intro value context
  have made :
      callFunction Builtin.round.name [value, "2".toList] [] context = .ok "-0.12".toList := by
    decide +kernel
  have comma :
      callFunction Builtin.formatNumber.name [value, "2".toList, [',']] [] context =
        .ok "-0,12".toList := by
    decide +kernel
  have number : ∃ number, parseNumber? "-0.12".toList = some number :=
    Option.isSome_iff_exists.1 (by decide +kernel)
  obtain ⟨isNumber, -, formatted, marked, counts⟩ := round_is_number_iff made
  cases comma.symm.trans marked
  have below := isNumber.1 number
  exact ⟨made, comma, number, below, (counts 2 (by decide) (by decide)).2 below⟩

/-- Beyond the doubles, what is written is neither a number nor has a mark. -/
theorem round_beyond_doubles :
    let context : Context := ⟨0, 1, .midnight ⟨2026, 3, 15, by decide, by decide, by decide⟩⟩
    callFunction Builtin.round.name ["1e999".toList, "2".toList] [] context =
        .ok "inf".toList ∧
      parseNumber? "inf".toList = none ∧
      callFunction Builtin.formatNumber.name ["1e999".toList, "2".toList, ",".toList] []
          context =
        .ok "inf".toList ∧
      "inf".toList.count ',' = 0 := by
  intro context
  exact ⟨by decide +kernel, by decide +kernel, by decide +kernel, by decide⟩

end Builtin
end LabelPress
