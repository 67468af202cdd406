import LabelPress.Number.Number

/-!
# Dots and orientations

Designs measure in millimetres and degrees, printers in dots and quarter turns.  A
resolution says how many dots make a millimetre.
-/

namespace LabelPress

/-- The dots per millimetre of each known resolution in dots per inch. -/
def resolutions : List (Int × Int) :=
  [(203, 8), (300, 12), (600, 24)]

/-- The dots per millimetre of an unknown resolution. -/
def defaultDotsPerMillimetre : Int := 8

/-- The dots per millimetre of a resolution in dots per inch. -/
def dotsPerMillimetre (dotsPerInch : Number) : Int :=
  ((resolutions.find? fun known => dotsPerInch.equals (.integer known.1)).map
    Prod.snd).getD defaultDotsPerMillimetre

/-- The dots that a length in millimetres covers; an infinite length covers none. -/
def dots
    (millimetres : Number)
    (perMillimetre : Int) : Except NumericFault Int := do
  if ← millimetres.isFinite? then
    (← millimetres.scale perMillimetre).round?
  else
    return 0

/-- The dots of a length that may be no number, in which case it covers none. -/
def dotsOf
    (length : Option Number)
    (perMillimetre : Int) : Except NumericFault Int :=
  match length with
  | none => .ok 0
  | some millimetres => dots millimetres perMillimetre

/-- The direction in which a field is printed, a number of quarter turns clockwise. -/
inductive Orientation where
  /-- Upright. -/
  | normal
  /-- A quarter turn. -/
  | quarter
  /-- A half turn. -/
  | half
  /-- Three quarter turns. -/
  | threeQuarters
deriving DecidableEq

namespace Orientation

/-- The letter of an orientation in a printer command. -/
def code : Orientation → Char
  | .normal => 'N'
  | .quarter => 'R'
  | .half => 'I'
  | .threeQuarters => 'B'

/-- The orientation nearest to a whole number of degrees. -/
def ofDegrees (degrees : Int) : Orientation :=
  let turned := degrees % 360
  if 315 ≤ turned ∨ turned < 45 then
    .normal
  else if turned < 135 then
    .quarter
  else if turned < 225 then
    .half
  else
    .threeQuarters

/-- The orientation of a rotation; what is no finite number does not rotate. -/
def ofRotation (rotation : Option Number) : Except NumericFault Orientation :=
  match rotation with
  | none => .ok .normal
  | some number => do
      if ← number.isFinite? then
        return ofDegrees (← number.round?)
      else
        return .normal

end Orientation
end LabelPress
