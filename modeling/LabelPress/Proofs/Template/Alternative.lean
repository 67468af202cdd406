import LabelPress.Proofs.Expr.Alternative
import LabelPress.Proofs.Expr.Written
import LabelPress.Proofs.Template.Spans

/-!
# Alternatives in a span

What a span `operand || alternative` is replaced by.  The error marker as the text of an
operand gives way to the alternative, but a fault of either side spoils the whole span, and
so does an alternative that cannot be read behind an operand that is fine.  An alternative
whose text is empty, be it a column or a chain of its own, stands for itself as it is
written.
-/

namespace LabelPress
namespace Template

open LabelPress.Expr

section
variable {row : Row} {context : Context} {body value : Text}

theorem evaluate_span_of_outcome
    (isBody : IsBody body)
    (made : outcome row context body = .ok value) :
    evaluate row context (span body) = value := by
  rw [evaluate_span isBody]
  apply evalText_of_outcome
  rw [outcome_trim, made]

/-- A span without an outcome is replaced by the error marker. -/
theorem evaluate_span_of_fault
    (isBody : IsBody body)
    (fault : ¬ Succeeds (outcome row context body)) :
    evaluate row context (span body) = errorMarker := by
  rw [evaluate_span isBody]
  apply evalText_of_fault
  rwa [outcome_trim]

end

/-- Braces with nothing between them are plain text. -/
theorem evaluate_span_nil
    (row : Row)
    (context : Context) :
    evaluate row context (span []) = span [] :=
  evaluate_of_unspanned (by decide) row context

theorem newline_not_mem_of_isWord
    {word : Text}
    (isWord : IsWord word) :
    '\n' ∉ word := by
  intro member
  exact absurd (isWord.isBlank_eq_false _ member) (by decide)

theorem isBody_of_isWord
    {word : Text}
    (isWord : IsWord word) :
    IsBody word where
  nonempty := isWord.1
  oneLine := newline_not_mem_of_isWord isWord
  unclosed := not_closing_isInfix isWord.not_mem_closeBrace
  bare := getLast?_ne_closeBrace isWord.not_mem_closeBrace

/-- A word may follow the bars of a body. -/
theorem isBody_append_word
    {operand word : Text}
    (isBody : IsBody operand)
    (isWord : IsWord word) :
    IsBody (operand ++ bars ++ word) := by
  rw [List.append_assoc]
  apply isBody.append
  · rw [List.mem_append, not_or]
    exact ⟨by decide, newline_not_mem_of_isWord isWord⟩
  · rw [List.mem_append, not_or]
    exact ⟨by decide, isWord.not_mem_closeBrace⟩

/-- What can end a body may follow a word and bars in it. -/
theorem isBody_word_append
    {word alternative : Text}
    (isWord : IsWord word)
    (oneLine : '\n' ∉ alternative)
    (unclosed : ¬ closing <:+: alternative)
    (bare : alternative.getLast? ≠ some closeBrace) :
    IsBody (word ++ bars ++ alternative) := by
  refine isBody_append ?_ ?_ ?_ oneLine unclosed bare
  · exact List.append_ne_nil_of_left_ne_nil isWord.1 bars
  · rw [List.mem_append, not_or]
    exact ⟨newline_not_mem_of_isWord isWord, by decide⟩
  · rw [List.mem_append, not_or]
    exact ⟨isWord.not_mem_closeBrace, by decide⟩

theorem isBody_inQuotes
    {quote : Char}
    {content : Text}
    (quoting : isQuote quote)
    (oneLine : '\n' ∉ content)
    (unclosed : ¬ closing <:+: content) :
    IsBody (inQuotes quote content) := by
  have unbraced : quote ≠ closeBrace := ne_of_isQuote quoting (by decide)
  have stays : quote ≠ '\n' := ne_of_isQuote quoting (by decide)
  have split : inQuotes quote content = [quote] ++ (content ++ [quote]) := rfl
  rw [split]
  refine isBody_append (List.cons_ne_nil quote []) ?_ ?_ ?_ ?_ ?_
  · simpa using stays.symm
  · simpa using unbraced.symm
  · rw [List.mem_append, not_or]
    exact ⟨oneLine, by simpa using stays.symm⟩
  · intro found
    exact unclosed (pair_isInfix_left (by simpa using unbraced.symm) found)
  · simpa using unbraced

/-- Words and bars in front of a body make a body. -/
theorem isBody_chain
    {names : List Text}
    {last : Text}
    (words : ∀ name ∈ names, IsWord name)
    (isBody : IsBody last) :
    IsBody (chain names last) := by
  induction names with
  | nil => exact isBody
  | cons name names inductionHypothesis =>
      have behind := inductionHypothesis
        fun other member => words other (List.mem_cons_of_mem name member)
      exact isBody_word_append (words name List.mem_cons_self) behind.oneLine
        behind.unclosed behind.bare

/-! ## Operands that fail -/

section
variable {row : Row} {context : Context} {operand name value : Text}

/-- The error marker as the text of an operand gives way to a column. -/
theorem evaluate_span_of_marker
    (isBody : IsBody operand)
    (isWord : IsWord name)
    (first : FirstBars operand name)
    (made : outcome row context operand = .ok errorMarker)
    (column : row.column? name = .ok (some value))
    (nonempty : value ≠ []) :
    evaluate row context (span (operand ++ bars ++ name)) = value := by
  apply evaluate_span_of_outcome (isBody_append_word isBody isWord)
  rw [first.outcome_of_unusable made (by decide) (outcome_word_of_column isWord column)]
  exact congrArg Except.ok (alternativeValue_of_ne_nil nonempty)

/-- A fault of an operand is not made good by its alternative. -/
theorem evaluate_span_of_operand_fault
    {fault : EvalFault}
    (isBody : IsBody operand)
    (isWord : IsWord name)
    (first : FirstBars operand name)
    (failed : outcome row context operand = .error fault) :
    evaluate row context (span (operand ++ bars ++ name)) = errorMarker := by
  apply evaluate_span_of_fault (isBody_append_word isBody isWord)
  apply first.not_succeeds_of_operand
  rw [failed]
  exact Succeeds.not_error fault

/--
A column behind a failing operand takes its place if the operand comes to the error marker
as its text, and only then, unless the column itself holds the marker.  Where a fault keeps
the operand from having a text, as a syntax fault or a failing function does, the whole
span fails.
-/
theorem evaluate_failing_operand
    (oneLine : '\n' ∉ operand)
    (unclosed : ¬ closing <:+: operand)
    (bare : operand.getLast? ≠ some closeBrace)
    (failing : evaluate row context (span operand) = errorMarker)
    (isWord : IsWord name)
    (column : row.column? name = .ok (some value))
    (nonempty : value ≠ [])
    (first : FirstBars operand name) :
    (evaluate row context (span (operand ++ bars ++ name)) = value ↔
        outcome row context operand = .ok errorMarker ∨ value = errorMarker) ∧
      (∀ fault, outcome row context operand = .error fault →
        evaluate row context (span (operand ++ bars ++ name)) = errorMarker) := by
  have isBody : IsBody operand := by
    refine ⟨?_, oneLine, unclosed, bare⟩
    rintro rfl
    rw [evaluate_span_nil] at failing
    exact absurd failing (by decide)
  have spoiled (fault : EvalFault) (failed : outcome row context operand = .error fault) :=
    evaluate_span_of_operand_fault isBody isWord first failed
  refine ⟨?_, spoiled⟩
  cases made : outcome row context operand with
  | error fault =>
      rw [spoiled fault made]
      simp [eq_comm]
  | ok text =>
      obtain rfl : text = errorMarker :=
        (evaluate_span_of_outcome isBody made).symm.trans failing
      rw [evaluate_span_of_marker isBody isWord first made column nonempty]
      simp

/-- The marker that an unknown function comes to gives way to a column. -/
theorem evaluate_failing_operand_unknown :
    let row : Row := [(.name "d".toList, .text "w".toList)]
    let context : Context := ⟨0, 1, .midnight ⟨2026, 3, 15, by decide, by decide, by decide⟩⟩
    evaluate row context (span "F()".toList) = errorMarker ∧
      evaluate row context (span ("F()".toList ++ bars ++ "d".toList)) = "w".toList := by
  intro row context
  have read : parse "F()".toList = .ok (.call "F".toList []) :=
    (@Written.call "F".toList [] [] "F()".toList [] ⟨by decide, by decide⟩ (by decide)
      (.none (by decide)) ⟨[], [], by decide, by decide, by decide⟩).reads
  have made : outcome row context "F()".toList = .ok errorMarker :=
    outcome_eq_ok.2 ⟨_, read, rfl⟩
  have failing := evaluate_span_of_outcome (by decide) made
  refine ⟨failing, ?_⟩
  have column : row.column? "d".toList = .ok (some "w".toList) := rfl
  exact (evaluate_failing_operand (by decide) (by decide) (by decide) failing (by decide)
    column (by decide) (by decide)).1.2 (Or.inl made)

/-- A function that fails takes the alternative behind it down. -/
theorem evaluate_span_raising_operand :
    let row : Row := [(.name "d".toList, .text "w".toList)]
    let context : Context := ⟨0, 1, .midnight ⟨2026, 3, 15, by decide, by decide, by decide⟩⟩
    let operand : Text := "RECORTAR(d, -1)".toList
    IsBody operand ∧ evaluate row context (span operand) = errorMarker ∧
      row.column? "d".toList = .ok (some "w".toList) ∧ FirstBars operand "d".toList ∧
      evaluate row context (span (operand ++ bars ++ "d".toList)) ≠ "w".toList := by
  intro row context operand
  have read :
      parse operand =
        .ok (.call "RECORTAR".toList
          [.column "d".toList (some "d".toList), .literal "-1".toList]) := by
    have number : (parseNumber? "-1".toList).isSome := by decide
    have value : Written (.argument (.column "d".toList (some "d".toList))) "d".toList :=
      .reference ⟨by decide, by decide⟩ ⟨[], [], by decide, by decide, by decide⟩
    have length : Written (.argument (.literal "-1".toList)) " -1".toList :=
      .number number ⟨" ".toList, [], by decide, by decide, by decide⟩
    exact (@Written.call "RECORTAR".toList [] "d, -1".toList operand _
      ⟨by decide, by decide⟩ (by decide) (.more value (.last length))
      ⟨[], [], by decide, by decide, by decide⟩).reads
  have failed : outcome row context operand = .error (.negativeLength (-1)) := by
    rw [outcome, read]
    rfl
  have isBody : IsBody operand := by decide
  have first : FirstBars operand "d".toList := by decide
  refine ⟨isBody, ?_, rfl, first, ?_⟩
  · apply evaluate_span_of_fault isBody
    rw [failed]
    exact Succeeds.not_error _
  · rw [evaluate_span_of_operand_fault isBody (by decide) first failed]
    decide

end

/-! ## Operands that are fine -/

section
variable {row : Row} {context : Context} {name value alternative : Text}

/-- A column with a usable text gives it in front of an alternative that can be read. -/
theorem evaluate_span_of_usable
    (isWord : IsWord name)
    (column : row.column? name = .ok (some value))
    (usable : Expr.isUsable value)
    (isLine : IsBody (name ++ bars ++ alternative))
    (read : Succeeds (parse alternative)) :
    evaluate row context (span (name ++ bars ++ alternative)) = value :=
  evaluate_span_of_outcome isLine
    ((isWord.firstBars alternative).outcome_of_usable
      (outcome_word_of_column isWord column) usable read)

/-- An alternative that cannot be read spoils the span, whatever the operand is. -/
theorem evaluate_span_of_unread
    (isWord : IsWord name)
    (isLine : IsBody (name ++ bars ++ alternative))
    (unread : ¬ Succeeds (parse alternative)) :
    evaluate row context (span (name ++ bars ++ alternative)) = errorMarker :=
  evaluate_span_of_fault isLine
    (not_succeeds_outcome ((isWord.firstBars alternative).not_succeeds_parse unread))

/--
A column with a usable text gives it in front of every alternative that can be read, and
of no other.  Every text without an opening parenthesis can be read.
-/
theorem evaluate_usable_operand
    (isWord : IsWord name)
    (column : row.column? name = .ok (some value))
    (nonempty : value ≠ [])
    (unmarked : value ≠ errorMarker)
    (oneLine : '\n' ∉ alternative)
    (unclosed : ¬ closing <:+: alternative)
    (bare : alternative.getLast? ≠ some closeBrace) :
    (evaluate row context (span (name ++ bars ++ alternative)) = value ↔
        Succeeds (parse alternative)) ∧
      (¬ Succeeds (parse alternative) →
        evaluate row context (span (name ++ bars ++ alternative)) = errorMarker) ∧
      ('(' ∉ alternative →
        evaluate row context (span (name ++ bars ++ alternative)) = value) := by
  have isLine := isBody_word_append isWord oneLine unclosed bare
  have usable := isUsable_iff.2 ⟨nonempty, unmarked⟩
  have given (read : Succeeds (parse alternative)) :
      evaluate row context (span (name ++ bars ++ alternative)) = value :=
    evaluate_span_of_usable isWord column usable isLine read
  have spoiled (unread : ¬ Succeeds (parse alternative)) :
      evaluate row context (span (name ++ bars ++ alternative)) = errorMarker :=
    evaluate_span_of_unread isWord isLine unread
  refine ⟨⟨?_, given⟩, spoiled, fun noCall => given (succeeds_parse_of_noCall noCall)⟩
  intro same
  by_contra unread
  exact unmarked (same.symm.trans (spoiled unread))

theorem evaluate_usable_operand_open_quote :
    let row : Row := [(.name "c".toList, .text "v".toList)]
    let context : Context := ⟨0, 1, .midnight ⟨2026, 3, 15, by decide, by decide, by decide⟩⟩
    evaluate row context (span ("c".toList ++ bars ++ "'|| )".toList)) = "v".toList := by
  intro row context
  have column : row.column? "c".toList = .ok (some "v".toList) := rfl
  exact (evaluate_usable_operand (by decide) column (by decide) (by decide) (by decide)
    (by decide) (by decide)).2.2 (by decide)

/-- A quoted alternative with a parenthesis takes a column that is fine down. -/
theorem evaluate_span_quoted_call :
    let row : Row := [(.name "c".toList, .text "v".toList)]
    let context : Context := ⟨0, 1, .midnight ⟨2026, 3, 15, by decide, by decide, by decide⟩⟩
    let alternative : Text := inQuotes '\x22' "(1)".toList
    row.column? "c".toList = .ok (some "v".toList) ∧ IsBody alternative ∧
      evaluate row context (span ("c".toList ++ bars ++ alternative)) ≠ "v".toList := by
  intro row context alternative
  refine ⟨rfl, by decide, ?_⟩
  rw [evaluate_span_of_unread (by decide) (by decide)
    (not_succeeds_parse_inQuotes (by decide) (by decide) (by decide))]
  decide

end

/-! ## Columns as alternatives -/

section
variable {row : Row} {name other : Text}

/-- Behind an unusable name a column without a text of its own is printed as its name. -/
theorem evaluate_span_of_column
    {found : Option Text}
    (context : Context)
    (isWord : IsWord name)
    (unusable : Unusable row name)
    (otherWord : IsWord other)
    (column : row.column? other = .ok found) :
    evaluate row context (span (name ++ bars ++ other)) =
      if found.getD [] = [] then other else found.getD [] :=
  evaluate_span_of_outcome (isBody_append_word (isBody_of_isWord isWord) otherWord)
    (outcome_word_behind_unusable isWord unusable otherWord column)

/--
A column as an alternative gives its text unless that is empty.  An empty one is not told
from a missing column, so the name is printed.
-/
theorem evaluate_column_alternative
    (context : Context)
    (isWord : IsWord name)
    (missing : row.column? name = .ok none ∨ row.column? name = .ok (some []))
    (otherWord : IsWord other) :
    (∀ text, row.column? other = .ok (some text) →
        (evaluate row context (span (name ++ bars ++ other)) = text ↔ text ≠ []) ∧
          (text = [] → evaluate row context (span (name ++ bars ++ other)) = other)) ∧
      (row.column? other = .ok none →
        evaluate row context (span (name ++ bars ++ other)) = other) ∧
      (∀ fault, row.column? other = .error fault →
        evaluate row context (span (name ++ bars ++ other)) = errorMarker) := by
  have unusable : Unusable row name := by
    rcases missing with absent | empty
    · exact ⟨none, absent, rfl⟩
    · exact ⟨some [], empty, rfl⟩
  refine ⟨?_, ?_, ?_⟩
  · intro text column
    rw [evaluate_span_of_column context isWord unusable otherWord column]
    by_cases empty : text = []
    · simp [empty, otherWord.1]
    · simp [empty]
  · intro absent
    rw [evaluate_span_of_column context isWord unusable otherWord absent]
    rfl
  · intro fault column
    apply evaluate_span_of_fault (isBody_append_word (isBody_of_isWord isWord) otherWord)
    exact unusable.not_succeeds isWord (not_succeeds_outcome_word otherWord column)

theorem evaluate_column_alternative_number :
    let row : Row := [(.name "c".toList, .null), (.name "D".toList, .integer 7)]
    let context : Context := ⟨0, 1, .midnight ⟨2026, 3, 15, by decide, by decide, by decide⟩⟩
    evaluate row context (span ("c".toList ++ bars ++ "d".toList)) = "7".toList := by
  intro row context
  have missing : row.column? "c".toList = .ok none := rfl
  have column : row.column? "d".toList = .ok (some "7".toList) := by decide
  exact (((evaluate_column_alternative context (by decide) (Or.inl missing)
    (by decide)).1 _ column).1).2 (by decide)

/-- An empty column is printed as its name. -/
theorem evaluate_span_empty_column :
    let row : Row := [(.name "d".toList, .text [])]
    let context : Context := ⟨0, 1, .midnight ⟨2026, 3, 15, by decide, by decide, by decide⟩⟩
    row.column? "c".toList = .ok none ∧ row.column? "d".toList = .ok (some []) ∧
      evaluate row context (span ("c".toList ++ bars ++ "d".toList)) ≠ [] := by
  intro row context
  refine ⟨rfl, rfl, ?_⟩
  rw [evaluate_span_of_column context (by decide) ⟨none, rfl, rfl⟩ (by decide) rfl]
  decide

end

/-! ## Quoted texts as alternatives -/

section
variable {row : Row} {front : List Text} {name content : Text} {quote : Char}

/-- An opening parenthesis between the quotes spoils the span. -/
theorem evaluate_span_of_quoted_call
    (context : Context)
    (words : ∀ word ∈ front ++ [name], IsWord word)
    (quoting : isQuote quote)
    (free : quote ∉ content)
    (oneLine : '\n' ∉ content)
    (unclosed : ¬ closing <:+: content)
    (called : '(' ∈ content) :
    evaluate row context (span (chain (front ++ [name]) (inQuotes quote content))) =
      errorMarker :=
  evaluate_span_of_fault (isBody_chain words (isBody_inQuotes quoting oneLine unclosed))
    (not_succeeds_outcome
      (not_succeeds_parse_chain words (not_succeeds_parse_inQuotes quoting free called)))

/-- Without one the content is shown, and if that is empty the last name as it is written. -/
theorem evaluate_span_of_quoted
    (context : Context)
    (words : ∀ word ∈ front ++ [name], IsWord word)
    (unusable : ∀ word ∈ front ++ [name], Unusable row word)
    (quoting : isQuote quote)
    (free : quote ∉ content)
    (oneLine : '\n' ∉ content)
    (unclosed : ¬ closing <:+: content)
    (noCall : '(' ∉ content)
    (keys : ∀ key cell, (ColumnKey.name key, cell) ∈ row → quote ∉ key) :
    evaluate row context (span (chain (front ++ [name]) (inQuotes quote content))) =
      if content = [] ∧ front ≠ [] then name ++ bars ++ inQuotes quote [] else content :=
  evaluate_span_of_outcome (isBody_chain words (isBody_inQuotes quoting oneLine unclosed))
    (outcome_chain_inQuotes words unusable quoting free noCall keys)

/--
A quoted text at the end of a chain of missing columns stands for its content, except in
two cases: an opening parenthesis in it spoils the span, and behind two names or more
nothing between the quotes makes the last name appear with its bars and the quotes.
-/
theorem evaluate_quoted_alternative
    (context : Context)
    (words : ∀ word ∈ front ++ [name], IsWord word)
    (absent : ∀ word ∈ front ++ [name], row.column? word = .ok none)
    (quoting : isQuote quote)
    (free : quote ∉ content)
    (oneLine : '\n' ∉ content)
    (unclosed : ¬ closing <:+: content)
    (keys : ∀ key cell, (ColumnKey.name key, cell) ∈ row → quote ∉ key) :
    (evaluate row context (span (chain (front ++ [name]) (inQuotes quote content))) =
          content ↔
        '(' ∉ content ∧ (content ≠ [] ∨ front = [])) ∧
      ('(' ∈ content →
        evaluate row context (span (chain (front ++ [name]) (inQuotes quote content))) =
          errorMarker) ∧
      (content = [] → front ≠ [] →
        evaluate row context (span (chain (front ++ [name]) (inQuotes quote content))) =
          name ++ bars ++ inQuotes quote []) := by
  have unusable (word : Text) (member : word ∈ front ++ [name]) : Unusable row word :=
    ⟨none, absent word member, rfl⟩
  have spoiled (called : '(' ∈ content) :
      evaluate row context (span (chain (front ++ [name]) (inQuotes quote content))) =
        errorMarker :=
    evaluate_span_of_quoted_call context words quoting free oneLine unclosed called
  have shown (noCall : '(' ∉ content) :=
    evaluate_span_of_quoted context words unusable quoting free oneLine unclosed noCall keys
  refine ⟨?_, spoiled, ?_⟩
  · by_cases called : '(' ∈ content
    · rw [spoiled called]
      refine iff_of_false ?_ fun conditions => conditions.1 called
      rintro rfl
      exact absurd called (by decide)
    · rw [shown called]
      by_cases leaks : content = [] ∧ front ≠ []
      · rw [if_pos leaks, leaks.1]
        refine iff_of_false (by simp [inQuotes_ne_nil]) ?_
        rintro ⟨-, nonempty | alone⟩
        · exact nonempty rfl
        · exact leaks.2 alone
      · rw [if_neg leaks]
        refine iff_of_true rfl ⟨called, ?_⟩
        by_contra neither
        rw [not_or, not_not] at neither
        exact leaks neither
  · rintro rfl several
    rw [shown List.not_mem_nil, if_pos ⟨rfl, several⟩]

theorem evaluate_quoted_alternative_bars :
    let context : Context := ⟨0, 1, .midnight ⟨2026, 3, 15, by decide, by decide, by decide⟩⟩
    evaluate [] context
        (span (chain ["a".toList, "b".toList] (inQuotes '\x22' " x || y, ".toList))) =
      " x || y, ".toList := by
  intro context
  have words : ∀ word ∈ ["a".toList] ++ ["b".toList], IsWord word := by decide
  have absent : ∀ word ∈ ["a".toList] ++ ["b".toList], Row.column? [] word = .ok none :=
    fun _ _ => rfl
  exact (evaluate_quoted_alternative context words absent (by decide) (by decide) (by decide)
    (by decide) (by simp)).1.2 (by decide)

/-- Empty quotes show the expression, and quotes around a parenthesis spoil the span. -/
theorem evaluate_span_bad_quotes :
    let context : Context := ⟨0, 1, .midnight ⟨2026, 3, 15, by decide, by decide, by decide⟩⟩
    evaluate [] context (span (chain ["a".toList, "b".toList] (inQuotes '\x22' []))) ≠ [] ∧
      evaluate [] context (span (chain ["a".toList] (inQuotes '\x22' "(".toList))) ≠
        "(".toList := by
  intro context
  have unusable (word : Text) : Unusable [] word := ⟨none, rfl, rfl⟩
  have leaked :=
    @evaluate_span_of_quoted [] ["a".toList] "b".toList [] '\x22' context (by decide)
      (fun word _ => unusable word) (by decide) (by decide) (by decide) (by decide)
      (by decide) (by simp)
  have spoiled :=
    @evaluate_span_of_quoted_call [] [] "a".toList "(".toList '\x22' context (by decide)
      (by decide) (by decide) (by decide) (by decide) (by decide)
  constructor
  · exact leaked.trans_ne (by decide)
  · exact spoiled.trans_ne (by decide)

end

end Template
end LabelPress
