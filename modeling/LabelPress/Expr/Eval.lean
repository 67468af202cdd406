import LabelPress.Expr.Apply
import LabelPress.Expr.Parse

/-!
# Evaluating expressions

The text of an expression under a row and a context.  An operand with an alternative
keeps its own text unless that is empty or the error marker; an alternative without a
text of its own, such as the name of no column, stands for itself as it is written.
-/

namespace LabelPress
namespace Expr

/-- Take off one pair of equal quotes around a text. -/
def stripQuotes (text : Text) : Text :=
  match text with
  | first :: rest =>
      if isQuote first && rest.getLast? == some first then
        rest.dropLast
      else
        text
  | [] => []

/-- A text counts as a value unless it is empty or the error marker. -/
def isUsable (text : Text) : Bool :=
  !text.isEmpty && text != errorMarker

/-- The text of an alternative from its value and from how it is written. -/
def alternativeValue
    (value : Text)
    (written : Text) : Text :=
  if value = [] ∧ written ≠ [] ∧ '(' ∉ written then
    stripQuotes written
  else
    value

mutual

/-- The text of an expression. -/
def eval
    (row : Row)
    (context : Context) : Expr → Except EvalFault Text
  | .literal value => .ok value
  | .column name fallback =>
      EvalFault.liftNumeric
        ((row.column? name).map fun text => text.getD (fallback.getD []))
  | .call function arguments => do
      let values ← evalAll row context arguments
      callFunction function values row context
  | .otherwise primary alternative alternativeText => do
      let value ← primary.eval row context
      if isUsable value then
        return value
      else
        let substitute ← alternative.eval row context
        return alternativeValue substitute alternativeText
  | .hole => .error .emptyPlace

/-- The texts of a list of expressions, from left to right. -/
def evalAll
    (row : Row)
    (context : Context) : List Expr → Except EvalFault (List Text)
  | [] => .ok []
  | first :: others => do
      let value ← first.eval row context
      let values ← evalAll row context others
      return value :: values

end

/-- The text of a written expression, which is the error marker where it has none. -/
def evalText
    (row : Row)
    (context : Context)
    (text : Text) : Text :=
  match EvalFault.liftSyntax (parse text) with
  | .error _ => errorMarker
  | .ok expression =>
      match expression.eval row context with
      | .error _ => errorMarker
      | .ok value => value

end Expr
end LabelPress
