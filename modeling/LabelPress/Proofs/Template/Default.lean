import LabelPress.Proofs.Template.LeadingArgument

/-!
# Two ways of giving a default

A call `POR_DEFECTO(c, "s")` and an operand `c || "s"` both give the text of a column, and
`s` if that is empty.  Main statement: they differ only for a column that the row lacks.
There the name of the column is an argument that stands for itself, so the call gives the
name, while the operand is empty and gives way to `s`.
-/

namespace LabelPress

open ScanState

namespace Expr

/-- A call of the function for defaults with a name and a quoted text. -/
def defaultCall
    (quote : Char)
    (name content : Text) : Text :=
  Builtin.orDefault.name ++ parenthesized (name ++ ',' :: ' ' :: inQuotes quote content)

section
variable {row : Row} {context : Context} {quote : Char} {name content : Text}

theorem defaultCall_eq :
    defaultCall quote name content =
      leadingCall quote Builtin.orDefault.name name [content] := rfl

/-- The call comes to the column, and to the substitute where that is there but empty. -/
theorem outcome_defaultCall
    (isWord : IsWord name)
    (unnumbered : parseNumber? name = none)
    (quoting : isQuote quote)
    (free : quote ∉ content) :
    outcome row context (defaultCall quote name content) =
      EvalFault.liftNumeric
        ((row.column? name).map fun found => orElse (found.getD name) content) := by
  have named : IsFunctionName Builtin.orDefault.name := ⟨by decide, by decide⟩
  rw [defaultCall_eq, outcome_leadingCall named (.ofWord isWord unnumbered) quoting
    (by simpa using free), eval]
  cases row.column? name with
  | error fault => rfl
  | ok found =>
      change callFunction Builtin.orDefault.name [found.getD name, content] row context = _
      rw [callFunction, Builtin.ofName?_name]
      rfl

end
end Expr

namespace Template

open LabelPress.Expr

section
variable {row : Row} {quote : Char} {name content : Text}

theorem isBody_defaultCall
    (isWord : IsWord name)
    (quoting : isQuote quote)
    (oneLine : '\n' ∉ content)
    (unclosed : ¬ closing <:+: content) :
    IsBody (defaultCall quote name content) := by
  rw [defaultCall_eq]
  exact isBody_leadingCall ⟨by decide, by decide⟩ (newline_not_mem_of_isWord isWord)
    isWord.not_mem_closeBrace quoting (by simpa using oneLine) (by simpa using unclosed)

/-- The call gives the name of a column that is missing, and never an empty text. -/
theorem evaluate_span_defaultCall
    {found : Option Text}
    (context : Context)
    (isWord : IsWord name)
    (unnumbered : parseNumber? name = none)
    (quoting : isQuote quote)
    (free : quote ∉ content)
    (isBody : IsBody (defaultCall quote name content))
    (column : row.column? name = .ok found) :
    evaluate row context (span (defaultCall quote name content)) =
      orElse (found.getD name) content := by
  apply evaluate_span_of_outcome isBody
  rw [outcome_defaultCall isWord unnumbered quoting free, column]
  rfl

/-- The bars give the quoted text for a missing column as well as for an empty one. -/
theorem evaluate_span_name_inQuotes
    {found : Option Text}
    (context : Context)
    (isWord : IsWord name)
    (quoting : isQuote quote)
    (free : quote ∉ content)
    (noCall : '(' ∉ content)
    (isBody : IsBody (name ++ bars ++ inQuotes quote content))
    (column : row.column? name = .ok found)
    (unmarked : found ≠ some errorMarker)
    (unquoted :
      Unusable row name →
        row.column? (inQuotes quote content) = .ok none ∨
          row.column? (inQuotes quote content) = .ok (some [])) :
    evaluate row context (span (name ++ bars ++ inQuotes quote content)) =
      orElse (found.getD []) content := by
  by_cases empty : found.getD [] = []
  · have unusable : Unusable row name := ⟨found, column, by rw [empty]; rfl⟩
    have alternative : outcome row context (inQuotes quote content) = .ok [] := by
      rcases unquoted unusable with absent | blank
      · exact outcome_inQuotes_of_column quoting free noCall absent
      · exact outcome_inQuotes_of_column quoting free noCall blank
    rw [evaluate_span_of_outcome isBody
      (outcome_name_inQuotes isWord unusable quoting noCall alternative), empty]
    rfl
  · cases found with
    | none => exact absurd rfl empty
    | some text =>
        have nonempty : text ≠ [] := empty
        have usable : Expr.isUsable text :=
          isUsable_iff.2 ⟨nonempty, fun same => unmarked (congrArg some same)⟩
        have read : Succeeds (parse (inQuotes quote content)) :=
          ⟨_, parse_inQuotes quoting free noCall⟩
        rw [evaluate_span_of_usable isWord column usable isBody read, Option.getD_some, orElse,
          if_neg (by simpa using nonempty)]

/--
The function for defaults and the bars agree on a column that the row has, and on one that
it lacks only if the substitute is its name: there the function gives the name and the bars
give the substitute.  A column named like the quoted substitute, quotes included, would be
preferred to it by the bars.
-/
theorem evaluate_defaultCall_eq_iff
    (context : Context)
    (isWord : IsWord name)
    (unnumbered : parseNumber? name = none)
    (unmarked : row.column? name ≠ .ok (some errorMarker))
    (quoting : isQuote quote)
    (free : quote ∉ content)
    (noCall : '(' ∉ content)
    (oneLine : '\n' ∉ content)
    (unclosed : ¬ closing <:+: content)
    (unquoted :
      Unusable row name →
        row.column? (inQuotes quote content) = .ok none ∨
          row.column? (inQuotes quote content) = .ok (some [])) :
    (evaluate row context (span (defaultCall quote name content)) =
          evaluate row context (span (name ++ bars ++ inQuotes quote content)) ↔
        row.column? name ≠ .ok none ∨ name = content) ∧
      ∀ found, row.column? name = .ok found →
        evaluate row context (span (defaultCall quote name content)) =
            orElse (found.getD name) content ∧
          evaluate row context (span (name ++ bars ++ inQuotes quote content)) =
            orElse (found.getD []) content := by
  have callBody : IsBody (defaultCall quote name content) :=
    isBody_defaultCall isWord quoting oneLine unclosed
  have quotedBody := isBody_inQuotes quoting oneLine unclosed
  have barsBody : IsBody (name ++ bars ++ inQuotes quote content) :=
    isBody_word_append isWord quotedBody.oneLine quotedBody.unclosed quotedBody.bare
  have both (found : Option Text) (column : row.column? name = .ok found) :
      evaluate row context (span (defaultCall quote name content)) =
          orElse (found.getD name) content ∧
        evaluate row context (span (name ++ bars ++ inQuotes quote content)) =
          orElse (found.getD []) content := by
    have different : found ≠ some errorMarker := by
      rintro rfl
      exact unmarked column
    exact
      ⟨evaluate_span_defaultCall context isWord unnumbered quoting free callBody column,
        evaluate_span_name_inQuotes context isWord quoting free noCall barsBody column
          different unquoted⟩
  refine ⟨?_, both⟩
  cases column : row.column? name with
  | error fault =>
      have callFails : ¬ Succeeds (outcome row context (defaultCall quote name content)) := by
        rw [outcome_defaultCall isWord unnumbered quoting free, column]
        exact Succeeds.not_error _
      have barsFail :
          ¬ Succeeds (outcome row context (name ++ bars ++ inQuotes quote content)) :=
        (isWord.firstBars _).not_succeeds_of_operand (not_succeeds_outcome_word isWord column)
      rw [evaluate_span_of_fault callBody callFails, evaluate_span_of_fault barsBody barsFail]
      simp
  | ok found =>
      obtain ⟨call, alternative⟩ := both found column
      rw [call, alternative]
      cases found with
      | none => simp [orElse, isWord.1]
      | some text => simp

theorem evaluate_defaultCall_empty_column :
    let row : Row := [(.name "C".toList, .text [])]
    let context : Context := ⟨0, 1, .midnight ⟨2026, 3, 15, by decide, by decide, by decide⟩⟩
    evaluate row context (span (defaultCall '\x22' "c".toList "s".toList)) =
      evaluate row context (span ("c".toList ++ bars ++ inQuotes '\x22' "s".toList)) := by
  intro row context
  have present : row.column? "c".toList ≠ .ok none := by decide
  have unquoted : row.column? (inQuotes '\x22' "s".toList) = .ok none := by decide
  exact (evaluate_defaultCall_eq_iff context (by decide) (by decide) (by decide) (by decide)
    (by decide) (by decide) (by decide) (by decide) fun _ => Or.inl unquoted).1.2 (Or.inl present)

/--
The two differ for a missing column, and for an empty one beside a column whose name is the
substitute in its quotes.
-/
theorem evaluate_span_different_defaults :
    let context : Context := ⟨0, 1, .midnight ⟨2026, 3, 15, by decide, by decide, by decide⟩⟩
    let call : Text := "POR_DEFECTO(c, \"s\")".toList
    let alternative : Text := "c || \"s\"".toList
    let row : Row := [(.name "c".toList, .text []), (.name "\"s\"".toList, .text "w".toList)]
    (Row.column? [] "c".toList = .ok none ∧ Row.column? [] "s".toList = .ok none ∧
        evaluate [] context (span call) ≠ evaluate [] context (span alternative)) ∧
      row.column? "c".toList = .ok (some []) ∧ row.column? "s".toList = .ok none ∧
        evaluate row context (span call) ≠ evaluate row context (span alternative) := by
  intro context call alternative row
  have given {row : Row} {found : Option Text} (column : row.column? "c".toList = .ok found) :
      evaluate row context (span call) = orElse (found.getD "c".toList) "s".toList :=
    @evaluate_span_defaultCall row '\x22' "c".toList "s".toList found context (by decide)
      (by decide) (by decide) (by decide) (by decide) column
  constructor
  · refine ⟨rfl, rfl, ?_⟩
    have substitute : evaluate [] context (span alternative) = "s".toList :=
      @evaluate_span_name_inQuotes [] '\x22' "c".toList "s".toList none context (by decide)
        (by decide) (by decide) (by decide) (by decide) rfl (by decide) fun _ => Or.inl rfl
    rw [given rfl, substitute]
    decide
  · have empty : row.column? "c".toList = .ok (some []) := by decide
    have named : row.column? (inQuotes '\x22' "s".toList) = .ok (some "w".toList) := by decide
    have quoted : outcome row context (inQuotes '\x22' "s".toList) = .ok "w".toList :=
      outcome_inQuotes_of_column (by decide) (by decide) (by decide) named
    have unusable : Unusable row "c".toList := ⟨_, empty, rfl⟩
    have preferred : evaluate row context (span alternative) = "w".toList :=
      evaluate_span_of_outcome (by decide) (unusable.outcome_eq (by decide) quoted)
    refine ⟨empty, by decide, ?_⟩
    rw [given empty, preferred]
    decide

end
end Template
end LabelPress
