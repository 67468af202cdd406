import LabelPress.Proofs.Expr.Condition
import LabelPress.Proofs.Template.LeadingArgument

/-!
# Choices

What a span `SI(condition, "first", "second")` is replaced by, for a condition that compares
two operands, one that names a column, and one with an operand in quotes.  Main statements:
operands are compared by the texts of their columns, whatever these hold; a column as the
whole condition is read as a condition in turn, with an operator in its text and all; and the
quotes around an operand do not keep it from naming a column.

The function is given one text for its condition, in which nothing tells apart what was
written, what was quoted and what came from the row.
-/

namespace LabelPress

open ScanState

namespace Expr

/-- A choice between two quoted texts. -/
def choice
    (quote : Char)
    (condition first second : Text) : Text :=
  leadingCall quote Builtin.choose.name condition [first, second]

/-- Two operands with an operator between them, and blanks around that. -/
def compared
    (comparison : Comparison)
    (before after left right : Text) : Text :=
  left ++ before ++ comparison.token ++ (after ++ right)

section
variable {row : Row} {context : Context} {quote : Char} {condition value first second : Text}
  {tree : Expr}

/-- The condition is evaluated to a text, and that text is evaluated as a condition. -/
theorem outcome_choice
    (isArgument : IsArgument tree condition)
    (evaluated : tree.eval row context = .ok value)
    (quoting : isQuote quote)
    (free : ∀ text ∈ [first, second], quote ∉ text) :
    outcome row context (choice quote condition first second) =
      (Condition.evaluateWith (Builtin.resolveOperand row) value).map
        fun holds => if holds then first else second := by
  have named : IsFunctionName Builtin.choose.name := ⟨by decide, by decide⟩
  rw [choice, outcome_leadingCall named isArgument quoting free, evaluated]
  change callFunction Builtin.choose.name [value, first, second] row context = _
  rw [callFunction, Builtin.ofName?_name]
  change (Condition.evaluateWith (Builtin.resolveOperand row) value >>= fun holds =>
    pure (argumentAt [value, first, second] (if holds then 1 else 2))) = _
  cases Condition.evaluateWith (Builtin.resolveOperand row) value with
  | error fault => rfl
  | ok holds => cases holds <;> rfl

end

/-! ## Compared operands -/

section
variable {comparison : Comparison} {before after left right : Text}

/-- Operands without signs are what the condition is cut into. -/
theorem cutsAt_compared
    (comparison : Comparison)
    (leftSignless : Condition.Signless left)
    (rightSignless : Condition.Signless right)
    (blankBefore : Text.AllBlank before)
    (blankAfter : Text.AllBlank after) :
    Condition.CutsAt (compared comparison before after left right) comparison (left ++ before)
      (after ++ right) :=
  .ofSignless comparison (leftSignless.append (.ofBlank blankBefore))
    (.append (.ofBlank blankAfter) rightSignless)

theorem markFree_token : MarkFree comparison.token := by
  cases comparison <;> simp only [MarkFree] <;> decide

theorem trim_compared
    (leftWord : IsWord left)
    (rightWord : IsWord right) :
    Text.trim (compared comparison before after left right) =
      compared comparison before after left right := by
  obtain ⟨c, others, rfl, leftSolid, -⟩ := leftWord.exists_cons
  obtain ⟨front, d, rfl, rightSolid⟩ := rightWord.exists_concat
  have ends :=
    Text.trim_cons_append_singleton leftSolid rightSolid
      (others ++ before ++ comparison.token ++ after ++ front)
  simpa [compared] using ends

theorem parseNumber?_compared :
    parseNumber? (compared comparison before after left right) = none := by
  obtain ⟨sign, rest, shape⟩ := List.exists_cons_of_ne_nil comparison.token_ne_nil
  have inToken : sign ∈ comparison.token := by simp [shape]
  have member : sign ∈ compared comparison before after left right := by simp [compared, inToken]
  exact Condition.parseNumber?_eq_none_of_isSign member (Condition.isSign_of_mem_token sign inToken)

/-- A character that no operator is written with stands in an operand or in the blanks. -/
theorem not_mem_compared
    {c : Char}
    (unsigned : Condition.isSign c = false)
    (outside : c ∉ before ++ after)
    (leftFree : c ∉ left)
    (rightFree : c ∉ right) :
    c ∉ compared comparison before after left right := by
  have tokenFree := Condition.not_mem_token unsigned comparison
  simp only [compared, List.mem_append, not_or] at outside ⊢
  exact ⟨⟨⟨leftFree, outside.1⟩, tokenFree⟩, outside.2, rightFree⟩

theorem closeBrace_not_mem_blanks
    (blankBefore : Text.AllBlank before)
    (blankAfter : Text.AllBlank after) :
    '\x7d' ∉ before ++ after := by
  rw [List.mem_append, not_or]
  exact ⟨blankBefore.not_mem (by decide), blankAfter.not_mem (by decide)⟩

/-- Two compared words are an argument, which names a column as a whole. -/
theorem isArgument_compared
    (comparison : Comparison)
    (leftWord : IsWord left)
    (rightWord : IsWord right)
    (blankBefore : Text.AllBlank before)
    (blankAfter : Text.AllBlank after)
    (oneLine : '\n' ∉ before ++ after) :
    IsArgument
      (.column (compared comparison before after left right)
        (some (compared comparison before after left right)))
      (compared comparison before after left right) := by
  have free : MarkFree (compared comparison before after left right) :=
    ((leftWord.markFree.append (.ofBlank blankBefore)).append markFree_token).append
      (MarkFree.append (.ofBlank blankAfter) rightWord.markFree)
  have nonempty : compared comparison before after left right ≠ [] := by
    simp [compared, leftWord.1]
  apply IsArgument.ofMarkFree free nonempty parseNumber?_compared (trim_compared leftWord rightWord)
  · exact not_mem_compared (by decide) oneLine (Template.newline_not_mem_of_isWord leftWord)
      (Template.newline_not_mem_of_isWord rightWord)
  · exact not_mem_compared (by decide) (closeBrace_not_mem_blanks blankBefore blankAfter)
      leftWord.not_mem_closeBrace rightWord.not_mem_closeBrace

theorem quote_not_mem_of_isWord
    {quote : Char}
    (quoting : isQuote quote)
    (isWord : IsWord left) :
    quote ∉ left := by
  intro member
  rw [isQuote_eq_false_of_isPlain (isWord.markFree.isPlain quote member)] at quoting
  cases quoting

/-- The quotes around an operand make a literal of the whole comparison and are gone in it. -/
theorem isArgument_compared_inQuotes
    {quote : Char}
    (comparison : Comparison)
    (leftWord : IsWord left)
    (rightWord : IsWord right)
    (blankBefore : Text.AllBlank before)
    (blankAfter : Text.AllBlank after)
    (oneLine : '\n' ∉ before ++ after)
    (quoting : isQuote quote) :
    IsArgument (.literal (compared comparison before after left right))
      (compared comparison before after left (inQuotes quote right)) := by
  have free : MarkFree (left ++ before ++ comparison.token ++ after) :=
    ((leftWord.markFree.append (.ofBlank blankBefore)).append markFree_token).append
      (.ofBlank blankAfter)
  have starts :
      Text.trimLeft (left ++ before ++ comparison.token ++ after) =
        left ++ before ++ comparison.token ++ after := by
    obtain ⟨c, others, rfl, solid, -⟩ := leftWord.exists_cons
    exact Text.trimLeft_append_cons solid [] (others ++ before ++ comparison.token ++ after)
  have quoted : Quoted right (inQuotes quote right) :=
    .last quoting (quote_not_mem_of_isWord quoting rightWord)
  have shape (operand : Text) :
      compared comparison before after left operand =
        left ++ before ++ comparison.token ++ after ++ operand := by
    simp [compared]
  rw [shape, shape]
  apply IsArgument.ofQuoted free starts quoted
  · have rightLine : '\n' ∉ inQuotes quote right := by
      rw [mem_inQuotes quoting (by decide)]
      exact Template.newline_not_mem_of_isWord rightWord
    rw [← shape]
    exact not_mem_compared (by decide) oneLine (Template.newline_not_mem_of_isWord leftWord)
      rightLine
  · have rightUnbraced : '\x7d' ∉ inQuotes quote right := by
      rw [mem_inQuotes quoting (by decide)]
      exact rightWord.not_mem_closeBrace
    rw [← shape]
    exact not_mem_compared (by decide) (closeBrace_not_mem_blanks blankBefore blankAfter)
      leftWord.not_mem_closeBrace rightUnbraced

end
end Expr

namespace Template

open LabelPress.Expr LabelPress.Condition

section
variable {row : Row} {quote : Char} {condition value first second : Text} {tree : Expr}

theorem isBody_choice
    (isArgument : IsArgument tree condition)
    (quoting : isQuote quote)
    (quotable : ∀ text ∈ [first, second], Quotable quote text) :
    IsBody (choice quote condition first second) :=
  isBody_leadingCall ⟨by decide, by decide⟩ isArgument.oneLine isArgument.unbraced quoting
    (fun text member => (quotable text member).oneLine)
    (fun text member => (quotable text member).unclosed)

/-- The answer of the condition decides between the texts. -/
theorem evaluate_span_choice
    {answer : Bool}
    (context : Context)
    (isArgument : IsArgument tree condition)
    (evaluated : tree.eval row context = .ok value)
    (quoting : isQuote quote)
    (quotable : ∀ text ∈ [first, second], Quotable quote text)
    (answered : evaluateWith (Builtin.resolveOperand row) value = .ok answer) :
    evaluate row context (span (choice quote condition first second)) =
      if answer then first else second := by
  apply evaluate_span_of_outcome (isBody_choice isArgument quoting quotable)
  rw [outcome_choice isArgument evaluated quoting fun text member => (quotable text member).free,
    answered]
  rfl

/-- A condition whose text has an operator compares what its operands stand for. -/
theorem evaluate_span_choice_of_cutsAt
    {comparison : Comparison}
    {left right : Text}
    (context : Context)
    (isArgument : IsArgument tree condition)
    (evaluated : tree.eval row context = .ok value)
    (quoting : isQuote quote)
    (quotable : ∀ text ∈ [first, second], Quotable quote text)
    (cutsAt : CutsAt value comparison left right) :
    (∀ x y, StandsFor row (Text.trim left) x → StandsFor row (Text.trim right) y →
        evaluate row context (span (choice quote condition first second)) =
          if comparison.Compares x y then first else second) ∧
      ((¬ ∃ x y, StandsFor row (Text.trim left) x ∧ StandsFor row (Text.trim right) y) →
        evaluate row context (span (choice quote condition first second)) = errorMarker) := by
  constructor
  · intro x y leftText rightText
    have answered := cutsAt.evaluateWith_eq_ok.2 ⟨x, y, leftText, rightText, rfl⟩
    rw [evaluate_span_choice context isArgument evaluated quoting quotable answered]
    simp
  · intro textless
    apply evaluate_span_of_fault (isBody_choice isArgument quoting quotable)
    rw [outcome_choice isArgument evaluated quoting fun text member => (quotable text member).free,
      Succeeds.map_iff]
    rintro ⟨answer, answered⟩
    obtain ⟨x, y, leftText, rightText, -⟩ := cutsAt.evaluateWith_eq_ok.1 answered
    exact textless ⟨x, y, leftText, rightText⟩

end

/-! ## Operands of a comparison -/

section
variable {row : Row} {quote : Char} {condition before after left right first second : Text}
  {tree : Expr}

/-- Compared words are told apart from the operator and from the blanks around it. -/
theorem evaluate_span_choice_of_compared
    {comparison : Comparison}
    (context : Context)
    (leftWord : IsWord left)
    (leftSignless : Signless left)
    (rightWord : IsWord right)
    (rightSignless : Signless right)
    (blankBefore : Text.AllBlank before)
    (blankAfter : Text.AllBlank after)
    (isArgument : IsArgument tree condition)
    (evaluated : tree.eval row context = .ok (compared comparison before after left right))
    (quoting : isQuote quote)
    (quotable : ∀ text ∈ [first, second], Quotable quote text) :
    (∀ x y, StandsFor row left x → StandsFor row right y →
        evaluate row context (span (choice quote condition first second)) =
          if comparison.Compares x y then first else second) ∧
      ((¬ ∃ x y, StandsFor row left x ∧ StandsFor row right y) →
        evaluate row context (span (choice quote condition first second)) = errorMarker) := by
  have cutsAt := cutsAt_compared comparison leftSignless rightSignless blankBefore blankAfter
  have leftTrimmed : Text.trim (left ++ before) = left := by
    rw [Text.trim_append_right blankBefore, leftWord.trim_eq]
  have rightTrimmed : Text.trim (after ++ right) = right := by
    rw [Text.trim_append_left blankAfter, rightWord.trim_eq]
  have decided :=
    evaluate_span_choice_of_cutsAt context isArgument evaluated quoting quotable cutsAt
  rwa [leftTrimmed, rightTrimmed] at decided

/--
A comparison of two operands holds or not by the texts that these stand for, whatever
characters are in them; without such texts the span has no value.
-/
theorem evaluate_choice_of_operands
    (comparison : Comparison)
    (context : Context)
    (leftOperand : IsOperand left)
    (rightOperand : IsOperand right)
    (blankBefore : Text.AllBlank before)
    (blankAfter : Text.AllBlank after)
    (oneLine : '\n' ∉ before ++ after)
    (quoting : isQuote quote)
    (quotable : ∀ text ∈ [first, second], Quotable quote text)
    (unnamed : row.column? (compared comparison before after left right) = .ok none) :
    (∀ x y, StandsFor row left x → StandsFor row right y →
        evaluate row context
            (span (choice quote (compared comparison before after left right) first second)) =
          if comparison.Compares x y then first else second) ∧
      ((¬ ∃ x y, StandsFor row left x ∧ StandsFor row right y) →
        evaluate row context
            (span (choice quote (compared comparison before after left right) first second)) =
          errorMarker) := by
  have isArgument := isArgument_compared comparison leftOperand.isWord rightOperand.isWord
    blankBefore blankAfter oneLine
  apply evaluate_span_choice_of_compared context leftOperand.isWord leftOperand.signless
    rightOperand.isWord rightOperand.signless blankBefore blankAfter isArgument _ quoting quotable
  rw [eval, unnamed]
  rfl

/-- Operators, commas, quotes and bars in a cell do not count, and numbers compare by value. -/
theorem evaluate_choice_of_operands_marks :
    let row : Row :=
      [(.name "a".toList, .text "x == \"y\", (||".toList), (.name "B".toList, .text "x < z".toList),
        (.name "n".toList, .text "1e1".toList)]
    let context : Context := ⟨0, 1, .midnight ⟨2026, 3, 15, by decide, by decide, by decide⟩⟩
    evaluate row context
          (span (choice '\x22' (compared .above [' '] [' '] "a".toList "b".toList) "A".toList
            "B".toList)) = "A".toList ∧
      evaluate row context
          (span (choice '\x22' (compared .different [] [] "n".toList "10.0".toList) "A".toList
            "B".toList)) = "B".toList := by
  intro row context
  have aOperand : IsOperand "a".toList := .word (by decide) (by decide)
  have bOperand : IsOperand "b".toList := .word (by decide) (by decide)
  have nOperand : IsOperand "n".toList := .word (by decide) (by decide)
  have tenOperand : IsOperand "10.0".toList := .number (by decide)
  have space : Text.AllBlank [' '] := by decide
  have nothing : Text.AllBlank [] := by decide
  have aText : StandsFor row "a".toList "x == \"y\", (||".toList :=
    .column (by decide) (by decide) (by decide)
  have bText : StandsFor row "b".toList "x < z".toList :=
    .column (by decide) (by decide) (by decide)
  have nText : StandsFor row "n".toList "1e1".toList :=
    .column (by decide) (by decide) (by decide)
  have tenText : StandsFor row "10.0".toList "10.0".toList := .number (by decide)
  constructor
  · rw [(evaluate_choice_of_operands .above context aOperand bOperand space space (by decide)
      (by decide) (by decide) (by decide)).1 _ _ aText bText]
    decide
  · rw [(evaluate_choice_of_operands .different context nOperand tenOperand nothing nothing
      (by decide) (by decide) (by decide) (by decide)).1 _ _ nText tenText]
    decide +kernel

end

/-! ## A column as the condition -/

section
variable {row : Row} {quote : Char} {name value first second : Text}

/--
A column that is the whole condition counts as false if it is empty, `0` or `false`, as long as
there is no operator in its text.  With one the text is itself a comparison, of operands that
may be columns in turn.
-/
theorem evaluate_choice_of_column
    (context : Context)
    (isWord : IsWord name)
    (unnumbered : parseNumber? name = none)
    (column : row.column? name = .ok (some value))
    (quoting : isQuote quote)
    (quotable : ∀ text ∈ [first, second], Quotable quote text) :
    (Bare value →
        evaluate row context (span (choice quote name first second)) =
          if value ∈ [[], ['0'], "false".toList] then second else first) ∧
      (∀ comparison left right, CutsAt value comparison left right →
        (∀ x y, StandsFor row (Text.trim left) x → StandsFor row (Text.trim right) y →
            evaluate row context (span (choice quote name first second)) =
              if comparison.Compares x y then first else second) ∧
          ((¬ ∃ x y, StandsFor row (Text.trim left) x ∧ StandsFor row (Text.trim right) y) →
            evaluate row context (span (choice quote name first second)) = errorMarker)) ∧
      (Bare value ∨ ∃ comparison left right, CutsAt value comparison left right) := by
  have isArgument := IsArgument.ofWord isWord unnumbered
  have evaluated : (Expr.column name (some name)).eval row context = .ok value := by
    rw [eval, column]
    rfl
  refine ⟨?_, ?_, bare_or_cutsAt value⟩
  · intro bare
    rw [evaluate_span_choice context isArgument evaluated quoting quotable bare.evaluateWith_eq]
    simp only [decide_not, Bool.not_eq_true', decide_eq_false_iff_not, ite_not]
  · intro comparison left right cutsAt
    exact evaluate_span_choice_of_cutsAt context isArgument evaluated quoting quotable cutsAt

/-- A text without an operator counts as true, and one with an operator is compared. -/
theorem evaluate_choice_of_column_read :
    let row : Row :=
      [(.name "b".toList, .text "false, (or) 'not'".toList),
        (.name "c".toList, .text "d > x".toList), (.name "d".toList, .text "w".toList)]
    let context : Context := ⟨0, 1, .midnight ⟨2026, 3, 15, by decide, by decide, by decide⟩⟩
    evaluate row context (span (choice '\x22' "b".toList "A".toList "B".toList)) = "A".toList ∧
      evaluate row context (span (choice '\x22' "c".toList "A".toList "B".toList)) =
        "B".toList := by
  intro row context
  have bColumn : row.column? "b".toList = .ok (some "false, (or) 'not'".toList) := by decide
  have cColumn : row.column? "c".toList = .ok (some "d > x".toList) := by decide
  have bare : Bare "false, (or) 'not'".toList := by
    intro comparison
    cases comparison <;> decide
  have cutsAt : CutsAt "d > x".toList .above "d ".toList " x".toList :=
    ⟨by decide, by decide, by decide⟩
  have dText : StandsFor row (Text.trim "d ".toList) "w".toList :=
    .column (by decide) (by decide) (by decide)
  have xText : StandsFor row (Text.trim " x".toList) "x".toList :=
    .missing (by decide) (by decide)
  constructor
  · rw [(evaluate_choice_of_column context (by decide) (by decide) bColumn (by decide)
      (by decide)).1 bare]
    decide
  · rw [((evaluate_choice_of_column context (by decide) (by decide) cColumn (by decide)
      (by decide)).2.1 .above _ _ cutsAt).1 _ _ dText xText]
    decide

/-- A cell with an operator in it decides by the comparison that it spells. -/
theorem evaluate_span_choice_spelled :
    let row : Row := [(.name "c".toList, .text "b < a".toList)]
    let context : Context := ⟨0, 1, .midnight ⟨2026, 3, 15, by decide, by decide, by decide⟩⟩
    row.column? "c".toList = .ok (some "b < a".toList) ∧
      "b < a".toList ∉ [[], ['0'], "false".toList] ∧
      evaluate row context (span (choice '\x22' "c".toList "A".toList "B".toList)) ≠
        "A".toList := by
  intro row context
  have column : row.column? "c".toList = .ok (some "b < a".toList) := by decide
  have isArgument : IsArgument (.column "c".toList (some "c".toList)) "c".toList :=
    .ofWord (by decide) (by decide)
  have evaluated :
      (Expr.column "c".toList (some "c".toList)).eval row context = .ok "b < a".toList := by
    rw [eval, column]
    rfl
  have cutsAt : CutsAt "b < a".toList .below "b ".toList " a".toList :=
    ⟨by decide, by decide, by decide⟩
  have bText : StandsFor row (Text.trim "b ".toList) "b".toList :=
    .missing (by decide) (by decide)
  have aText : StandsFor row (Text.trim " a".toList) "a".toList :=
    .missing (by decide) (by decide)
  refine ⟨column, by decide, ?_⟩
  rw [(evaluate_span_choice_of_cutsAt context isArgument evaluated (by decide) (by decide)
    cutsAt).1 _ _ bText aText]
  decide

end

/-! ## An operand in quotes -/

section
variable {row : Row} {quote : Char} {before after name text value first second : Text}

/--
A column is compared with a word in quotes as if the word stood there without them: the word
counts as itself only where the row has no column of its name, and else as that column.
-/
theorem evaluate_choice_of_quoted
    (context : Context)
    (isWord : IsWord name)
    (signless : Signless name)
    (unnumbered : parseNumber? name = none)
    (column : row.column? name = .ok (some value))
    (textWord : IsWord text)
    (textSignless : Signless text)
    (textUnnumbered : parseNumber? text = none)
    (blankBefore : Text.AllBlank before)
    (blankAfter : Text.AllBlank after)
    (oneLine : '\n' ∉ before ++ after)
    (quoting : isQuote quote)
    (quotable : ∀ content ∈ [first, second], Quotable quote content) :
    let condition := compared .equal before after name (inQuotes quote text)
    (row.column? text = .ok none →
        evaluate row context (span (choice quote condition first second)) =
          if value = text then first else second) ∧
      (∀ other, row.column? text = .ok (some other) →
        evaluate row context (span (choice quote condition first second)) =
          if Comparison.equal.Compares value other then first else second) ∧
      (¬ Succeeds (row.column? text) →
        evaluate row context (span (choice quote condition first second)) = errorMarker) := by
  intro condition
  have isArgument := isArgument_compared_inQuotes .equal isWord textWord blankBefore blankAfter
    oneLine quoting
  have evaluated :
      (Expr.literal (compared .equal before after name text)).eval row context =
        .ok (compared .equal before after name text) := by
    rw [eval]
  have decided := evaluate_span_choice_of_compared context isWord signless textWord textSignless
    blankBefore blankAfter isArgument evaluated quoting quotable
  have nameText : StandsFor row name value := .column isWord.1 unnumbered column
  refine ⟨?_, ?_, ?_⟩
  · intro missing
    rw [decided.1 _ _ nameText (.missing textUnnumbered missing)]
    simp only [Comparison.compares_of_unnumbered textUnnumbered, Comparison.Relates]
  · intro other present
    exact decided.1 _ _ nameText (.column textWord.1 textUnnumbered present)
  · intro textless
    apply decided.2
    rintro ⟨x, y, -, textText⟩
    exact textless (textText.succeeds textWord.1 textUnnumbered)

/-- The same word in quotes is itself in one row and a column in another. -/
theorem evaluate_choice_of_quoted_word :
    let plain : Row := [(.name "c".toList, .text "s".toList)]
    let row : Row := plain ++ [(.name "S".toList, .text "y".toList)]
    let context : Context := ⟨0, 1, .midnight ⟨2026, 3, 15, by decide, by decide, by decide⟩⟩
    let condition := compared .equal [' '] [' '] "c".toList (inQuotes '\x22' "s".toList)
    evaluate plain context (span (choice '\x22' condition "A".toList "B".toList)) = "A".toList ∧
      evaluate row context (span (choice '\x22' condition "A".toList "B".toList)) =
        "B".toList := by
  intro plain row context condition
  have space : Text.AllBlank [' '] := by decide
  have plainColumn : plain.column? "c".toList = .ok (some "s".toList) := by decide
  have rowColumn : row.column? "c".toList = .ok (some "s".toList) := by decide
  have missing : plain.column? "s".toList = .ok none := by decide
  have present : row.column? "s".toList = .ok (some "y".toList) := by decide
  constructor
  · rw [(evaluate_choice_of_quoted context (by decide) (by decide) (by decide) plainColumn
      (by decide) (by decide) (by decide) space space (by decide) (by decide) (by decide)).1
      missing]
    decide
  · rw [(evaluate_choice_of_quoted context (by decide) (by decide) (by decide) rowColumn
      (by decide) (by decide) (by decide) space space (by decide) (by decide) (by decide)).2.1 _
      present]
    decide

/-- A word in quotes is compared as the column that has its name. -/
theorem evaluate_span_choice_named :
    let row : Row := [(.name "c".toList, .text "x".toList), (.name "s".toList, .text "x".toList)]
    let context : Context := ⟨0, 1, .midnight ⟨2026, 3, 15, by decide, by decide, by decide⟩⟩
    let condition := compared .equal [' '] [' '] "c".toList (inQuotes '\x22' "s".toList)
    row.column? "c".toList = .ok (some "x".toList) ∧ "x".toList ≠ "s".toList ∧
      evaluate row context (span (choice '\x22' condition "A".toList "B".toList)) =
        "A".toList := by
  intro row context condition
  have space : Text.AllBlank [' '] := by decide
  have quoting : isQuote '\x22' := by decide
  have cWord : IsWord "c".toList := by decide
  have sWord : IsWord "s".toList := by decide
  have isArgument := isArgument_compared_inQuotes .equal cWord sWord space space (by decide) quoting
  have evaluated :
      (Expr.literal (compared .equal [' '] [' '] "c".toList "s".toList)).eval row context =
        .ok (compared .equal [' '] [' '] "c".toList "s".toList) := by
    rw [eval]
  have cText : StandsFor row "c".toList "x".toList := .column (by decide) (by decide) (by decide)
  have sText : StandsFor row "s".toList "x".toList := .column (by decide) (by decide) (by decide)
  refine ⟨by decide, by decide, ?_⟩
  rw [(evaluate_span_choice_of_compared context cWord (by decide) sWord (by decide) space space
    isArgument evaluated quoting (by decide)).1 _ _ cText sText]
  decide

end
end Template
end LabelPress
