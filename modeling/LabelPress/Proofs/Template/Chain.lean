import LabelPress.Proofs.Template.Alternative

/-!
# Chains of names

What a span of column names with bars between them is replaced by.  Main statement: the
first name with a usable text gives it, and if there is none the last name gives the text
of its column or, where the row does not have that column, itself.

Each level of a chain decides by the text of all the levels behind it whether its
alternative stands for itself as it is written.  That text is never empty, so no level
but the last one takes a name for a text.
-/

namespace LabelPress

/--
The text of the first column with a usable text.  If there is none, it is the text of a
last column, or the name of that column where the row does not have it.
-/
def Row.firstText
    (row : Row)
    (last : Text) : List Text → Except NumericFault Text
  | [] => (row.column? last).map fun found => found.getD last
  | name :: names => do
      let value := (← row.column? name).getD []
      if Expr.isUsable value then
        return value
      else
        firstText row last names

section
variable {row : Row} {last name value : Text} {names : List Text}

theorem Row.firstText_nil_eq_ok :
    row.firstText last [] = .ok value ↔
      ∃ found, row.column? last = .ok found ∧ found.getD last = value :=
  map_eq_ok

theorem Row.firstText_cons_eq_ok :
    row.firstText last (name :: names) = .ok value ↔
      ∃ found, row.column? name = .ok found ∧
        (Expr.isUsable (found.getD []) ∧ value = found.getD [] ∨
          Expr.isUsable (found.getD []) = false ∧ row.firstText last names = .ok value) := by
  rw [firstText, bind_eq_ok]
  apply exists_congr
  intro found
  apply and_congr_right
  intro _
  cases usable : Expr.isUsable (found.getD []) with
  | true => simp [usable, pure, Except.pure, eq_comm]
  | false => simp [usable]

/-- A chain has a text of its own unless its last column is empty. -/
theorem Row.ne_nil_of_firstText
    (named : last ≠ [])
    (nonempty : row.column? last ≠ .ok (some []))
    (picked : row.firstText last names = .ok value) :
    value ≠ [] := by
  induction names with
  | nil =>
      obtain ⟨found, column, rfl⟩ := firstText_nil_eq_ok.1 picked
      cases found with
      | none => exact named
      | some text =>
          rintro rfl
          exact nonempty column
  | cons name names inductionHypothesis =>
      obtain ⟨found, -, ⟨usable, rfl⟩ | ⟨-, behind⟩⟩ := firstText_cons_eq_ok.1 picked
      · exact (Expr.isUsable_iff.1 usable).1
      · exact inductionHypothesis behind

end

namespace Expr

section
variable {row : Row} {context : Context} {name last value : Text} {names : List Text}

theorem outcome_word_eq_ok
    (isWord : IsWord name) :
    outcome row context name = .ok value ↔
      ∃ found, row.column? name = .ok found ∧ found.getD [] = value := by
  rw [outcome_word isWord]
  cases row.column? name with
  | error fault => simp [EvalFault.liftNumeric, Except.map]
  | ok found => simp [EvalFault.liftNumeric, Except.map]

theorem noCall_chain
    (words : ∀ word ∈ names, IsWord word)
    (isWord : IsWord last) :
    '(' ∉ chain names last := by
  induction names with
  | nil => exact isWord.markFree.not_mem (by decide)
  | cons name names inductionHypothesis =>
      rw [List.forall_mem_cons] at words
      rw [chain_cons, List.mem_append, List.mem_append, not_or, not_or]
      exact ⟨⟨words.1.markFree.not_mem (by decide), by decide⟩, inductionHypothesis words.2⟩

/-- A name in front of bars gives its text if that is usable. -/
theorem outcome_name_eq_ok
    {alternative : Text}
    (isWord : IsWord name)
    (noCall : '(' ∉ alternative) :
    outcome row context (name ++ bars ++ alternative) = .ok value ↔
      ∃ found, row.column? name = .ok found ∧
        (isUsable (found.getD []) ∧ value = found.getD [] ∨
          isUsable (found.getD []) = false ∧
            ∃ other, outcome row context alternative = .ok other ∧
              value = alternativeValue other (Text.trim alternative)) := by
  rw [(isWord.firstBars alternative).outcome_eq_ok]
  simp only [outcome_word_eq_ok isWord, succeeds_parse_of_noCall noCall, true_and]
  constructor
  · rintro ⟨_, ⟨found, column, rfl⟩, choice⟩
    exact ⟨found, column, choice⟩
  · rintro ⟨found, column, choice⟩
    exact ⟨_, ⟨found, column, rfl⟩, choice⟩

/-- The last name of a chain stands for its column, or for itself without one. -/
theorem outcome_last_eq_ok
    (isWord : IsWord last)
    (nonempty : row.column? last ≠ .ok (some [])) :
    (∃ other, outcome row context last = .ok other ∧
        value = alternativeValue other (Text.trim last)) ↔
      row.firstText last [] = .ok value := by
  have noCall : '(' ∉ ([] : Text) := List.not_mem_nil
  have itself := alternativeValue_nil_of_word isWord noCall
  rw [List.append_nil] at itself
  have shown (found : Option Text) (column : row.column? last = .ok found) :
      alternativeValue (found.getD []) last = found.getD last := by
    cases found with
    | none => exact itself
    | some text =>
        apply alternativeValue_of_ne_nil
        rintro rfl
        exact nonempty column
  rw [Row.firstText_nil_eq_ok, isWord.trim_eq]
  simp only [outcome_word_eq_ok isWord]
  constructor
  · rintro ⟨_, ⟨found, column, rfl⟩, rfl⟩
    exact ⟨found, column, (shown found column).symm⟩
  · rintro ⟨found, column, rfl⟩
    exact ⟨_, ⟨found, column, rfl⟩, (shown found column).symm⟩

/-- A chain of names comes to the text of its first usable column. -/
theorem outcome_chain_eq_ok
    (words : ∀ word ∈ name :: names, IsWord word)
    (isWord : IsWord last)
    (nonempty : row.column? last ≠ .ok (some [])) :
    outcome row context (chain (name :: names) last) = .ok value ↔
      row.firstText last (name :: names) = .ok value := by
  induction names generalizing name value with
  | nil =>
      have noCall : '(' ∉ last := isWord.markFree.not_mem (by decide)
      rw [chain_cons, chain_nil, outcome_name_eq_ok (words name List.mem_cons_self) noCall,
        Row.firstText_cons_eq_ok, outcome_last_eq_ok isWord nonempty]
  | cons second others inductionHypothesis =>
      have behindWords : ∀ word ∈ second :: others, IsWord word :=
        fun word member => words word (List.mem_cons_of_mem name member)
      rw [chain_cons, outcome_name_eq_ok (words name List.mem_cons_self)
        (noCall_chain behindWords isWord), Row.firstText_cons_eq_ok]
      -- What is behind the first bars has a text, so it never stands for itself.
      have behind :
          (∃ other, outcome row context (chain (second :: others) last) = .ok other ∧
              value = alternativeValue other (Text.trim (chain (second :: others) last))) ↔
            row.firstText last (second :: others) = .ok value := by
        constructor
        · rintro ⟨other, made, rfl⟩
          have picked := (inductionHypothesis behindWords).1 made
          have present := Row.ne_nil_of_firstText isWord.1 nonempty picked
          rwa [alternativeValue_of_ne_nil present]
        · intro picked
          have present := Row.ne_nil_of_firstText isWord.1 nonempty picked
          exact ⟨value, (inductionHypothesis behindWords).2 picked,
            (alternativeValue_of_ne_nil present).symm⟩
      rw [behind]

end
end Expr

namespace Template

open LabelPress.Expr

/--
A chain of names is replaced by the text of its first usable column.  Without one it is
replaced by the text of the last column, and by its name where the row does not have it.
A column that cannot be written spoils the span if it is come to.
-/
theorem evaluate_chain_of_names
    {row : Row}
    {names : List Text}
    {last : Text}
    (context : Context)
    (words : ∀ word ∈ names, IsWord word)
    (isWord : IsWord last)
    (several : names ≠ [])
    (nonempty : row.column? last ≠ .ok (some [])) :
    evaluate row context (span (chain names last)) =
      match row.firstText last names with
      | .ok text => text
      | .error _ => errorMarker := by
  obtain ⟨name, others, rfl⟩ := List.exists_cons_of_ne_nil several
  have isBody := isBody_chain words (isBody_of_isWord isWord)
  cases picked : row.firstText last (name :: others) with
  | ok text =>
      exact evaluate_span_of_outcome isBody
        ((outcome_chain_eq_ok words isWord nonempty).2 picked)
  | error fault =>
      apply evaluate_span_of_fault isBody
      rintro ⟨value, made⟩
      have other := (outcome_chain_eq_ok words isWord nonempty).1 made
      rw [picked] at other
      cases other

/-- A missing column, an empty one and the error marker are passed over. -/
theorem evaluate_chain_of_names_third :
    let row : Row :=
      [(.name "b".toList, .text []), (.name "c".toList, .text errorMarker),
        (.name "D".toList, .integer 5), (.name "e".toList, .text "x".toList)]
    let context : Context := ⟨0, 1, .midnight ⟨2026, 3, 15, by decide, by decide, by decide⟩⟩
    evaluate row context
        (span (chain ["a".toList, "b".toList, "c".toList, "d".toList] "e".toList)) =
      "5".toList := by
  intro row context
  have nonempty : row.column? "e".toList ≠ .ok (some []) := by decide
  rw [evaluate_chain_of_names context (by decide) (by decide) (by decide) nonempty]
  have picked :
      row.firstText "e".toList ["a".toList, "b".toList, "c".toList, "d".toList] =
        .ok "5".toList := by
    decide
  rw [picked]

end Template
end LabelPress
