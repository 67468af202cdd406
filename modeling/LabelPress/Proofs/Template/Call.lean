import LabelPress.Proofs.Template.LeadingArgument
import Mathlib.Data.List.Forall2

/-!
# Calls of any arguments

A call with a comma and a blank between its arguments, each of which is an argument on its
own: a quoted text, a number, a word or again such a call.  Main statements: the call is read
as the call of what its arguments are read as, it is an argument itself, and in a span the
function is given the values of its arguments.
-/

namespace LabelPress

open ScanState

namespace Expr

/-- A call of a function with arguments that are written out. -/
def calling
    (function : Text)
    (arguments : List Text) : Text :=
  function ++ parenthesized (Text.join [',', ' '] arguments)

example :
    calling Builtin.addDays.name ["d".toList, "-3".toList] = "SUMAR_DIAS(d, -3)".toList := by
  decide

/-- A text that is an argument with a value of its own. -/
def Gives
    (row : Row)
    (context : Context)
    (value argument : Text) : Prop :=
  ∃ tree, IsArgument tree argument ∧ tree.eval row context = .ok value

section
variable {function : Text} {arguments : List Text} {trees : List Expr}

/-- Arguments are read together if each of them can be read. -/
theorem balanced_and_reads_join
    (nonempty : arguments ≠ [])
    (each : List.Forall₂ IsArgument trees arguments) :
    Balanced (Text.join [',', ' '] arguments) ∧
      Reads (.arguments trees) (Text.join [',', ' '] arguments) := by
  induction each with
  | nil => exact absurd rfl nonempty
  | cons first others inductionHypothesis =>
      cases others with
      | nil => exact ⟨first.balanced, last_reads first.hidden first.reads⟩
      | cons second others =>
          have separator : Balanced [',', ' '] := .ofPlain (by decide)
          have blank : Text.AllBlank [' '] := by decide
          obtain ⟨balanced, behind⟩ := inductionHypothesis (List.cons_ne_nil _ _)
          simp only [Reads] at behind
          rw [← Argument.cutAtCommas_append_left blank] at behind
          have read := more_reads first.balanced first.hidden first.reads behind
          rw [Text.join]
          refine ⟨(first.balanced.append separator).append balanced, ?_⟩
          rw [List.append_assoc]
          exact read

/-- A call of arguments is read as the call of what they are read as. -/
theorem parse_calling
    (named : IsFunctionName function)
    (nonempty : arguments ≠ [])
    (each : List.Forall₂ IsArgument trees arguments) :
    parse (calling function arguments) = .ok (.call function trees) := by
  have noGap : Text.AllBlank [] := by decide
  obtain ⟨balanced, read⟩ := balanced_and_reads_join nonempty each
  apply parse_of_call named noGap balanced read
  rw [List.append_nil]
  exact .refl _

/-- A character that no argument holds is not in the call of them. -/
theorem not_mem_calling
    {c : Char}
    (unnamed : c ∉ function)
    (unmarked : c ∉ ['(', ',', ' ', ')'])
    (absent : ∀ argument ∈ arguments, c ∉ argument) :
    c ∉ calling function arguments := by
  have between : c ∉ Text.join [',', ' '] arguments := by
    intro member
    rcases Text.mem_join member with separator | ⟨argument, listed, inside⟩
    · simp_all
    · exact absent argument listed inside
  simp_all [calling, parenthesized]

theorem forall_mem_of_isArgument
    {p : Text → Prop}
    (each : List.Forall₂ IsArgument trees arguments)
    (holds : ∀ {tree argument}, IsArgument tree argument → p argument) :
    ∀ argument ∈ arguments, p argument := by
  induction each with
  | nil => exact List.forall_mem_nil p
  | cons first others inductionHypothesis =>
      exact List.forall_mem_cons.2 ⟨holds first, inductionHypothesis⟩

/-- A call of arguments is an argument. -/
theorem isArgument_calling
    (named : IsFunctionName function)
    (nonempty : arguments ≠ [])
    (each : List.Forall₂ IsArgument trees arguments) :
    IsArgument (.call function trees) (calling function arguments) := by
  have noGap : Text.AllBlank [] := by decide
  have isWord := named.isName.isWord
  obtain ⟨inner, -⟩ := balanced_and_reads_join nonempty each
  have balanced := balanced_call named noGap inner
  have shows := shows_call named noGap inner
  rw [List.append_nil] at balanced shows
  exact
    { balanced := balanced
      hidden := shows.hides rfl
      reads := compound_reads trivial (shows.mono expressionChar_of_operandChar)
        (parse_calling named nonempty each)
      oneLine := not_mem_calling (Template.newline_not_mem_of_isWord isWord) (by decide)
        (forall_mem_of_isArgument each IsArgument.oneLine)
      unbraced := not_mem_calling isWord.not_mem_closeBrace (by decide)
        (forall_mem_of_isArgument each IsArgument.unbraced) }

end

/-! ## The values of arguments -/

section
variable {row : Row} {context : Context} {function text : Text} {values arguments : List Text}

theorem Gives.ofQuoted
    {quote : Char}
    (quoting : isQuote quote)
    (free : quote ∉ text)
    (oneLine : '\n' ∉ text)
    (unbraced : '\x7d' ∉ text) :
    Gives row context text (inQuotes quote text) := by
  have quoted : Quoted text (inQuotes quote text) := .last quoting free
  have unmarked : MarkFree [] := List.forall_mem_nil _
  have writtenLine : '\n' ∉ inQuotes quote text := mt (mem_inQuotes quoting (by decide)).1 oneLine
  have writtenBrace : '\x7d' ∉ inQuotes quote text :=
    mt (mem_inQuotes quoting (by decide)).1 unbraced
  have isArgument : IsArgument (.literal ([] ++ text)) ([] ++ inQuotes quote text) :=
    .ofQuoted unmarked rfl quoted writtenLine writtenBrace
  exact ⟨_, isArgument, rfl⟩

/-- A number stands for itself. -/
theorem Gives.ofNumber
    (number : (parseNumber? text).isSome) :
    Gives row context text text := by
  have isWord := IsWord.ofNumber number
  have free := isWord.markFree
  exact ⟨.literal text,
    { balanced := free.balanced
      hidden := free.shows.hides rfl
      reads := number_reads number (.refl text)
      oneLine := Template.newline_not_mem_of_isWord isWord
      unbraced := isWord.not_mem_closeBrace }, rfl⟩

/-- A word stands for the text of the column that it names, or else for itself. -/
theorem Gives.ofWord
    {found : Option Text}
    (isWord : IsWord text)
    (unnumbered : parseNumber? text = none)
    (column : row.column? text = .ok found) :
    Gives row context (found.getD text) text := by
  refine ⟨_, .ofWord isWord unnumbered, ?_⟩
  rw [eval, column]
  rfl

/-- Arguments with values are read as trees that are evaluated to them. -/
theorem exists_trees
    (given : List.Forall₂ (Gives row context) values arguments) :
    ∃ trees, List.Forall₂ IsArgument trees arguments ∧
      evalAll row context trees = .ok values := by
  induction given with
  | nil => exact ⟨[], .nil, rfl⟩
  | cons first others inductionHypothesis =>
      obtain ⟨tree, isArgument, evaluated⟩ := first
      obtain ⟨trees, each, allEvaluated⟩ := inductionHypothesis
      refine ⟨tree :: trees, .cons isArgument each, ?_⟩
      rw [evalAll, evaluated, allEvaluated]
      rfl

/-- A call gives what its function makes of the values of the arguments. -/
theorem Gives.calling
    {value : Text}
    (named : IsFunctionName function)
    (nonempty : arguments ≠ [])
    (given : List.Forall₂ (Gives row context) values arguments)
    (computed : callFunction function values row context = .ok value) :
    Gives row context value (Expr.calling function arguments) := by
  obtain ⟨trees, each, evaluated⟩ := exists_trees given
  refine ⟨_, isArgument_calling named nonempty each, ?_⟩
  rw [eval, evaluated]
  exact computed

/-- The outcome of a call is what its function makes of the values of the arguments. -/
theorem outcome_calling
    (named : IsFunctionName function)
    (nonempty : arguments ≠ [])
    (given : List.Forall₂ (Gives row context) values arguments) :
    outcome row context (Expr.calling function arguments) =
      callFunction function values row context := by
  obtain ⟨trees, each, evaluated⟩ := exists_trees given
  rw [outcome, parse_calling named nonempty each]
  change (evalAll row context trees >>= fun found => callFunction function found row context) = _
  rw [evaluated]
  rfl

end
end Expr

namespace Template

open LabelPress.Expr

section
variable {row : Row} {context : Context} {function : Text} {values arguments : List Text}

theorem isBody_calling
    (named : IsFunctionName function)
    (nonempty : arguments ≠ [])
    (given : List.Forall₂ (Gives row context) values arguments) :
    IsBody (calling function arguments) := by
  obtain ⟨trees, each, -⟩ := exists_trees given
  have isArgument := isArgument_calling named nonempty each
  exact
    { nonempty := List.append_ne_nil_of_left_ne_nil named.1 _
      oneLine := isArgument.oneLine
      unclosed := not_closing_isInfix isArgument.unbraced
      bare := getLast?_ne_closeBrace isArgument.unbraced }

/-- A span with a call is replaced by what the function computes. -/
theorem evaluate_span_calling
    {value : Text}
    (named : IsFunctionName function)
    (nonempty : arguments ≠ [])
    (given : List.Forall₂ (Gives row context) values arguments)
    (computed : callFunction function values row context = .ok value) :
    evaluate row context (span (calling function arguments)) = value := by
  apply evaluate_span_of_outcome (isBody_calling named nonempty given)
  rw [outcome_calling named nonempty given, computed]

/-- A span with a call is replaced by the error marker if the function fails. -/
theorem evaluate_span_calling_of_fault
    (named : IsFunctionName function)
    (nonempty : arguments ≠ [])
    (given : List.Forall₂ (Gives row context) values arguments)
    (failed : ¬ Succeeds (callFunction function values row context)) :
    evaluate row context (span (calling function arguments)) = errorMarker := by
  apply evaluate_span_of_fault (isBody_calling named nonempty given)
  rwa [outcome_calling named nonempty given]

end
end Template
end LabelPress
