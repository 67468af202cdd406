import LabelPress.Number.Double

/-!
# Whole and fractional numbers

A number is an integer of any size or a double.  The two kinds compare and round by
value, but an integer beyond all doubles cannot be rounded.
-/

namespace LabelPress

/-- An integer or a double. -/
inductive Number where
  /-- An integer of any size. -/
  | integer (value : Int)
  /-- A double precision number. -/
  | real (value : Double)
deriving DecidableEq

namespace Number

/-- Two numbers have the same value. -/
def equals : Number → Number → Bool
  | .integer a, .integer b => a == b
  | .integer a, .real b => b.integer? == some a
  | .real a, .integer b => a.integer? == some b
  | .real a, .real b => a.compare? b == some .eq

/-- A number is finite unless it is a double that is not. -/
def isFinite? : Number → Except NumericFault Bool
  | .integer value => (Double.ofInt? value).map fun _ => true
  | .real value => .ok value.isFinite

/-- The nearest integer, halves away from zero; an integer becomes a double first. -/
def round? : Number → Except NumericFault Int
  | .integer value => (Double.ofInt? value).bind Double.round?
  | .real value => value.round?

/-- The product with an integer, which becomes a double if the number is one. -/
def scale
    (number : Number)
    (factor : Int) : Except NumericFault Number :=
  match number with
  | .integer value => .ok (.integer (value * factor))
  | .real value => (Double.ofInt? factor).map fun double => .real (value.mul double)

end Number
end LabelPress
