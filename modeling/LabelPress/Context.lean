import LabelPress.Calendar.Moment

/-!
# Rendering context

What an expression can see besides its row: the place of the row in the batch, the size
of the batch and one moment for the whole label.
-/

namespace LabelPress

/-- The place of a label in its batch and the moment of rendering. -/
structure Context where
  /-- The place of the row, from zero. -/
  rowIndex : Nat
  /-- The number of rows of the batch. -/
  batchSize : Nat
  /-- The moment at which the label is rendered. -/
  now : Moment
deriving DecidableEq

end LabelPress
