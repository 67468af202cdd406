import LabelPress.Expr.Basic
import LabelPress.Number.Numeral

/-!
# Faults of evaluation

Why an expression has no value.  A template turns every such fault into a marker in
the place of the expression, so the causes are seen only where an expression is
evaluated on its own.
-/

namespace LabelPress

/-- Why an expression has no value. -/
inductive EvalFault where
  /-- The text is not an expression. -/
  | malformed (fault : SyntaxFault)
  /-- Arithmetic or the writing of a number failed. -/
  | numeric (fault : NumericFault)
  /-- A text was to be cut to a negative length. -/
  | negativeLength (length : Int)
  /-- A number was to be written with a negative number of places. -/
  | negativePlaces (places : Int)
  /-- A place of the tree holds no expression. -/
  | emptyPlace
deriving DecidableEq

namespace EvalFault

/-- The message of a fault; faults of arithmetic have none. -/
def message? : EvalFault → Option Text
  | .malformed fault => fault.message?
  | .numeric _ => none
  | .negativeLength length => some ("RECORTAR长度不能为负: ".toList ++ Numeral.ofInt length)
  | .negativePlaces places => some ("小数位数不能为负: ".toList ++ Numeral.ofInt places)
  | .emptyPlace => some "未知语法节点: None".toList

/-- Take over a fault of arithmetic. -/
def liftNumeric {α : Type} : Except NumericFault α → Except EvalFault α
  | .ok value => .ok value
  | .error fault => .error (.numeric fault)

/-- Take over a fault of syntax. -/
def liftSyntax {α : Type} : Except SyntaxFault α → Except EvalFault α
  | .ok value => .ok value
  | .error fault => .error (.malformed fault)

end EvalFault
end LabelPress
