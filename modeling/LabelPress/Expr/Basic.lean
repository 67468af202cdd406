import LabelPress.Text.Blank

/-!
# Expressions

What stands between the double braces of a template: columns, calls of functions and
operands with an alternative.
-/

namespace LabelPress

/-- An expression of a template. -/
inductive Expr where
  /-- A text that stands for itself. -/
  | literal (value : Text)
  /-- A column, with a text to use where the row has no such column. -/
  | column (name : Text) (fallback : Option Text)
  /-- A call of a function by its name. -/
  | call (function : Text) (arguments : List Expr)
  /-- An operand with an alternative, and the alternative as it is written. -/
  | otherwise (primary alternative : Expr) (alternativeText : Text)
  /-- A place that no expression fills. -/
  | hole

namespace Expr

mutual

/-- The number of nodes of an expression. -/
def size : Expr → Nat
  | .literal _ => 1
  | .column .. => 1
  | .call _ arguments => 1 + sizes arguments
  | .otherwise primary alternative _ => 1 + primary.size + alternative.size
  | .hole => 1

/-- The number of nodes of a list of expressions. -/
def sizes : List Expr → Nat
  | [] => 0
  | first :: others => first.size + sizes others

end

end Expr

/-- Why a text is not an expression. -/
inductive SyntaxFault where
  /-- No parenthesis closes the call. -/
  | missingClose (expression : Text)
  /-- Something other than blanks follows the call. -/
  | trailingContent (expression : Text)
  /-- A quote in the arguments is not closed. -/
  | unclosedQuote (arguments : Text)
  /-- A text read as a call has no opening parenthesis. -/
  | missingOpen
deriving DecidableEq

/-- The message of a syntax fault; a text that is no call at all has none. -/
def SyntaxFault.message? : SyntaxFault → Option Text
  | .missingClose expression => some ("缺少右括号: ".toList ++ expression)
  | .trailingContent expression => some ("函数调用后有多余内容: ".toList ++ expression)
  | .unclosedQuote arguments => some ("引号未闭合: ".toList ++ arguments)
  | .missingOpen => none

end LabelPress
