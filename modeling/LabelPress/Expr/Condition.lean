import LabelPress.Number.Literal
import LabelPress.Text.Search

/-!
# Conditions

A condition compares two operands, by value if both are numbers and by code points
otherwise.  Which comparison it is goes by a fixed priority and not by the place of
the operator; a condition without an operator holds for every text but the empty one,
`0` and `false`.
-/

namespace LabelPress

/-- A comparison of two operands. -/
inductive Comparison where
  /-- The operands are equal. -/
  | equal
  /-- The operands differ. -/
  | different
  /-- The left operand is not below the right one. -/
  | atLeast
  /-- The left operand is not above the right one. -/
  | atMost
  /-- The left operand is above the right one. -/
  | above
  /-- The left operand is below the right one. -/
  | below
deriving DecidableEq

namespace Comparison

/-- The operator that a comparison is written with. -/
def token : Comparison → Text
  | .equal => ['=', '=']
  | .different => ['!', '=']
  | .atLeast => ['>', '=']
  | .atMost => ['<', '=']
  | .above => ['>']
  | .below => ['<']

/-- All comparisons, those that win over others first. -/
def byPriority : List Comparison :=
  [.equal, .different, .atLeast, .atMost, .above, .below]

/-- The comparison holds of operands in a given order. -/
def holds : Comparison → Ordering → Bool
  | .equal, order => order == .eq
  | .different, order => order != .eq
  | .atLeast, order => order != .lt
  | .atMost, order => order != .gt
  | .above, order => order == .gt
  | .below, order => order == .lt

/-- The comparison holds of two numbers; only difference holds of what has no order. -/
def holdsOfNumbers
    (comparison : Comparison)
    (left right : Double) : Bool :=
  match left.compare? right with
  | some order => comparison.holds order
  | none => comparison == .different

/-- The comparison holds of two texts. -/
def holdsOfTexts
    (comparison : Comparison)
    (left right : Text) : Bool :=
  match parseNumber? left, parseNumber? right with
  | some leftNumber, some rightNumber => comparison.holdsOfNumbers leftNumber rightNumber
  | _, _ => comparison.holds (Text.order left right)

end Comparison

namespace Condition

/-- The parts of a condition: its comparison and the operands around the operator. -/
structure Parts where
  /-- The comparison that the operator stands for. -/
  comparison : Comparison
  /-- The text before the operator without outer blanks. -/
  left : Text
  /-- The text after the operator without outer blanks. -/
  right : Text

/-- Cut a condition at its operator of the highest priority, if it has one. -/
def parts? (condition : Text) : Option Parts :=
  Comparison.byPriority.findSome? fun comparison =>
    (Text.splitOnce? comparison.token condition).map fun sides =>
      ⟨comparison, Text.trim sides.1, Text.trim sides.2⟩

/-- A text without an operator counts as true. -/
def isTruthy (text : Text) : Bool :=
  !(text.isEmpty || text == ['0'] || text == "false".toList)

/-- Evaluate a condition whose operands are first resolved, the left one before the right. -/
def evaluateWith
    {ε : Type}
    (resolve : Text → Except ε Text)
    (condition : Text) : Except ε Bool :=
  match parts? condition with
  | some parts => do
      let left ← resolve parts.left
      let right ← resolve parts.right
      return parts.comparison.holdsOfTexts left right
  | none => .ok (isTruthy condition)

/-- Evaluate a condition whose operands stand for themselves. -/
def evaluate (condition : Text) : Bool :=
  match parts? condition with
  | some parts => parts.comparison.holdsOfTexts parts.left parts.right
  | none => isTruthy condition

end Condition
end LabelPress
