import LabelPress.Proofs.Calendar.Pattern
import LabelPress.Proofs.Template.Call

/-!
# Added days

Calls that add days to a date, and such calls as arguments of one another.  Main statement:
with the year-month-day pattern inside, adding days twice is adding their sum, whatever the
signs, as long as the year between has four digits to be read back; and a date outside the
calendar gives the error marker.
-/

namespace LabelPress

namespace Expr

/-- A call that adds days to a date and writes the sum by a pattern. -/
def addedDays
    (argument : Text)
    (days : Int)
    (pattern : Text) : Text :=
  calling Builtin.addDays.name [argument, Numeral.ofInt days, pattern]

section
variable {row : Row} {context : Context} {date other : Date} {text argument pattern : Text}
  {days : Int}

/-- What adding days comes to once the date and the number of days are read. -/
theorem callFunction_addDays
    {others : List Text}
    (parsed : Date.parse? text = some date)
    (read : leadingInteger (Numeral.ofInt days) 0 = .ok days) :
    callFunction Builtin.addDays.name (text :: Numeral.ofInt days :: others) row context =
      match date.addDays? days with
      | none => .error (.numeric .overflow)
      | some sum => .ok (sum.format (orElse (argumentAt others 0) defaultDatePattern)) := by
  have base : Builtin.dateOrToday context text = date := by
    rw [Builtin.dateOrToday, parsed]
    rfl
  rw [callFunction, Builtin.ofName?_name]
  change Builtin.applyAddDays 1 (text :: Numeral.ofInt days :: others) context = _
  simp only [Builtin.applyAddDays, argumentAt, List.getD_cons_zero, List.getD_cons_succ, base,
    read]
  change (match date.addDays? (days * 1) with
    | none => _
    | some sum => _) = _
  rw [Int.mul_one]
  rfl

/-- The date that is some days away is written by the pattern. -/
theorem callFunction_addDays_of_daysAfter
    (parsed : Date.parse? text = some date)
    (after : date.DaysAfter days other) :
    callFunction Builtin.addDays.name [text, Numeral.ofInt days, Date.isoPattern] row context =
      .ok (other.format Date.isoPattern) := by
  have short : days.natAbs < 10 ^ Numeral.digitLimit :=
    after.natAbs_lt.trans (Nat.pow_lt_pow_right (by decide) (by decide))
  have read : leadingInteger (Numeral.ofInt days) 0 = .ok days :=
    Numeral.leadingInteger_ofInt short 0
  rw [callFunction_addDays parsed read, Date.addDays?_eq_some_iff.2 after]
  rfl

/-- No text is written for a date outside the calendar, however many digits the number has. -/
theorem not_succeeds_callFunction_addDays
    (parsed : Date.parse? text = some date)
    (outside : ∀ other, ¬ date.DaysAfter days other) :
    ¬ Succeeds
      (callFunction Builtin.addDays.name [text, Numeral.ofInt days] row context) := by
  rcases (Numeral.writes_ofInt days).leadingInteger_eq 0 with read | ⟨unread, -⟩
  · rw [callFunction_addDays parsed read, Date.addDays?_eq_none_iff.2 outside]
    exact Succeeds.not_error _
  · rw [callFunction, Builtin.ofName?_name]
    change ¬ Succeeds (Builtin.applyAddDays 1 [text, Numeral.ofInt days] context)
    simp only [Builtin.applyAddDays, argumentAt, List.getD_cons_zero, List.getD_cons_succ, unread]
    exact Succeeds.not_error _

theorem isFunctionName_addDays :
    IsFunctionName Builtin.addDays.name :=
  ⟨by decide, by decide⟩

/-- The values of the three arguments of a call that adds days by the year-month-day pattern. -/
theorem gives_arguments
    (given : Gives row context text argument)
    (patterned : Gives row context Date.isoPattern pattern)
    (days : Int) :
    List.Forall₂ (Gives row context) [text, Numeral.ofInt days, Date.isoPattern]
      [argument, Numeral.ofInt days, pattern] :=
  .cons given (.cons (.ofNumber (Numeral.writes_ofInt days).isSome_parseNumber?)
    (.cons patterned .nil))

/-- A call that adds days gives the date that is so many days away. -/
theorem Gives.addedDays
    (given : Gives row context text argument)
    (patterned : Gives row context Date.isoPattern pattern)
    (parsed : Date.parse? text = some date)
    (after : date.DaysAfter days other) :
    Gives row context (other.format Date.isoPattern) (Expr.addedDays argument days pattern) :=
  .calling isFunctionName_addDays (List.cons_ne_nil _ _) (gives_arguments given patterned days)
    (callFunction_addDays_of_daysAfter parsed after)

end
end Expr

namespace Template

open LabelPress.Expr

section
variable {row : Row} {context : Context} {date other : Date} {text argument pattern : Text}
  {days : Int}

theorem evaluate_span_addedDays
    (given : Gives row context text argument)
    (patterned : Gives row context Date.isoPattern pattern)
    (parsed : Date.parse? text = some date)
    (after : date.DaysAfter days other) :
    evaluate row context (span (addedDays argument days pattern)) =
      other.format Date.isoPattern :=
  evaluate_span_calling isFunctionName_addDays (List.cons_ne_nil _ _)
    (gives_arguments given patterned days) (callFunction_addDays_of_daysAfter parsed after)

theorem evaluate_span_addDays_outside
    (given : Gives row context text argument)
    (parsed : Date.parse? text = some date)
    (outside : ∀ other, ¬ date.DaysAfter days other) :
    evaluate row context (span (calling Builtin.addDays.name [argument, Numeral.ofInt days])) =
      errorMarker := by
  have values :
      List.Forall₂ (Gives row context) [text, Numeral.ofInt days]
        [argument, Numeral.ofInt days] :=
    .cons given (.cons (.ofNumber (Numeral.writes_ofInt days).isSome_parseNumber?) .nil)
  exact evaluate_span_calling_of_fault isFunctionName_addDays (List.cons_ne_nil _ _) values
    (not_succeeds_callFunction_addDays parsed outside)

/--
Days can be added twice through the text of the date between, if its year has four digits,
and a sum of no days gives back the text of a date with such a year.  Outside the calendar
there is the error marker instead of a date.
-/
theorem evaluate_addedDays
    (written : Date.IsIso text date)
    (given : Gives row context text argument)
    (patterned : Gives row context Date.isoPattern pattern) :
    (∀ {days more : Int} {middle last : Date},
      date.DaysAfter days middle → 1000 ≤ middle.year → date.DaysAfter (days + more) last →
        evaluate row context (span (addedDays (addedDays argument days pattern) more pattern)) =
            evaluate row context (span (addedDays argument (days + more) pattern)) ∧
          evaluate row context (span (addedDays argument (days + more) pattern)) =
            last.format Date.isoPattern ∧
          (days + more = 0 → 1000 ≤ date.year →
            evaluate row context (span (addedDays argument (days + more) pattern)) = text)) ∧
    ∀ {days : Int}, (∀ other, ¬ date.DaysAfter days other) →
      evaluate row context (span (calling Builtin.addDays.name [argument, Numeral.ofInt days])) =
        errorMarker := by
  have parsed := written.parsed
  refine ⟨fun {days more middle last} first fourDigits whole => ?_,
    fun {_} outside => evaluate_span_addDays_outside given parsed outside⟩
  have direct := evaluate_span_addedDays given patterned parsed whole
  have inner := given.addedDays patterned parsed first
  -- With fewer digits the year would be written without its zeros, which is no date to read.
  have innerParsed : Date.parse? (middle.format Date.isoPattern) = some middle := by
    rw [Date.format_isoPattern_eq_isoText fourDigits, Date.parse?_isoText]
  refine ⟨?_, direct, fun nothing dateDigits => ?_⟩
  · rw [direct]
    exact evaluate_span_addedDays inner patterned innerParsed (first.rest whole)
  · rw [nothing] at whole
    have same : last = date := by
      have number := whole.dayNumber_eq
      exact Date.dayNumber_strictMono.injective (by omega)
    rw [direct, same, Date.format_isoPattern_eq_isoText dateDigits, Date.isIso_iff.1 written]

/-- A leap day comes back after a year forth and back. -/
theorem evaluate_addedDays_leapDay :
    let context : Context := ⟨0, 1, .midnight ⟨2026, 3, 15, by decide, by decide, by decide⟩⟩
    let argument : Text := "2024-02-29".toList
    let pattern : Text := inQuotes '\x27' Date.isoPattern
    evaluate [] context (span (addedDays (addedDays argument 366 pattern) (-366) pattern)) =
        argument ∧
      evaluate [] context
        (span (calling Builtin.addDays.name [argument, Numeral.ofInt 4000000])) = errorMarker := by
  intro context argument pattern
  let date : Date := ⟨2024, 2, 29, by decide, by decide, by decide⟩
  let middle : Date := ⟨2025, 3, 1, by decide, by decide, by decide⟩
  have written : Date.IsIso argument date := ⟨by decide, by decide, by decide⟩
  have isWord : IsWord argument := by decide
  have unnumbered : parseNumber? argument = none := by decide
  have missing : Row.column? [] argument = .ok none := rfl
  have given : Gives [] context argument argument := .ofWord isWord unnumbered missing
  have patterned : Gives [] context Date.isoPattern pattern :=
    .ofQuoted (by decide) (by decide) (by decide) (by decide)
  have forth : date.DaysAfter 366 middle := Date.daysAfter_iff.2 (by decide)
  have back : date.DaysAfter (366 + -366) date := .same
  have outside : ∀ other, ¬ date.DaysAfter 4000000 other :=
    Date.addDays?_eq_none_iff.1 (by decide)
  obtain ⟨composes, fails⟩ := evaluate_addedDays written given patterned
  obtain ⟨twice, -, once⟩ := composes forth (by decide) back
  exact ⟨twice.trans (once rfl (by decide)), fails outside⟩

end
end Template
end LabelPress
