import LabelPress.Context
import LabelPress.Schema.Scalar

/-!
# Rendering options

What the caller chooses for a label besides its design and row.  Options can be moved to
another row of a batch without a check, so their context is checked when it is made.
-/

namespace LabelPress

/-- The choices of a caller for one label. -/
structure Options where
  /-- The resolution in dots per inch. -/
  dpi : Int
  /-- The place of the row, from zero. -/
  rowIndex : Int
  /-- The number of rows of the batch. -/
  batchSize : Int
  /-- The moment of rendering, unless it is to be taken from the clock. -/
  now : Option Moment
  /-- Columns that replace the bindings of elements, by the identifiers of these. -/
  columnMapping : List (Text × Text)

namespace Options

/-- The options with the fields of a mapping. -/
def ofEntries (entries : Document.Entries) : Check Options :=
  Check.accept Options.mk
    |>.andThen (Check.optional entries "dpi" 203 Check.integer)
    |>.andThen (Check.optional entries "row_index" 0 (Check.atLeast 0 Check.integer))
    |>.andThen (Check.optional entries "batch_size" 1 (Check.atLeast 1 Check.integer))
    |>.andThen (Check.optional entries "now" none (Check.nullable Check.moment))
    |>.andThen (Check.optional entries "column_mapping" [] Check.textMapping)

/-- The options of a resolution and defaults for all else. -/
def ofResolution (dpi : Int) : Options :=
  ⟨dpi, 0, 1, none, []⟩

/-- The options for one row of a batch. -/
def forRow
    (options : Options)
    (rowIndex batchSize : Int) : Options :=
  { options with rowIndex := rowIndex, batchSize := batchSize }

/-- The options with a moment, their own one or the one of the clock. -/
def atMoment
    (options : Options)
    (clock : Moment) : Options :=
  { options with now := some (options.now.getD clock) }

/-- A complaint about a number below its bound. -/
def bounded
    (name : String)
    (bound value : Int) : Check Nat :=
  Check.within (.field name.toList) <|
    if value < bound then Check.reject .greaterThanEqual else .ok value.toNat

/-- The context of a label; the clock is read if the options have no moment. -/
def context
    (options : Options)
    (clock : Moment) : Check Context :=
  Check.accept Context.mk
    |>.andThen (bounded "row_index" 0 options.rowIndex)
    |>.andThen (bounded "batch_size" 1 options.batchSize)
    |>.andThen (Check.accept (options.now.getD clock))

end Options

/-- The context with the fields of a mapping. -/
def Context.ofEntries
    (clock : Moment)
    (entries : Document.Entries) : Check Context :=
  Check.accept Context.mk
    |>.andThen
      ((Check.optional entries "row_index" 0
        (Check.atLeast 0 Check.integer)).map Int.toNat)
    |>.andThen
      ((Check.optional entries "batch_size" 1
        (Check.atLeast 1 Check.integer)).map Int.toNat)
    |>.andThen (Check.optional entries "now" clock Check.moment)

end LabelPress
