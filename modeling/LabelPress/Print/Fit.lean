import LabelPress.Number.Double
import LabelPress.Text.Blank

/-!
# Fitting text into a box

A font size fits if the text, broken into lines of estimated width, is not higher than
its box.  Automatic fitting goes down from the wanted size to the least allowed one and
takes the first that fits.
-/

namespace LabelPress
namespace Fit

/-- The mean width of a character in font heights. -/
def widthRatio : Double :=
  Double.nearest false 6 10

/-- The height of a line in font heights. -/
def lineRatio : Double :=
  Double.nearest false 12 10

/-- A font height times a ratio in whole dots. -/
def scaled
    (fontHeight : Int)
    (ratio : Double) : Except NumericFault Int := do
  ((← Double.ofInt? fontHeight).mul ratio).round?

/-- The number of lines of a text with a number of characters on each line. -/
def lineCount
    (length : Nat)
    (perLine : Int) : Except NumericFault Int :=
  (Double.nearest false length perLine.toNat).ceiling?

/-- The text, broken into lines, is not higher than the box. -/
def fits
    (text : Text)
    (boxWidth boxHeight fontHeight : Int) : Except NumericFault Bool := do
  let characterWidth := max (← scaled fontHeight widthRatio) 1
  let perLine := max (boxWidth / characterWidth) 1
  let lines ← lineCount text.length perLine
  let lineHeight ← scaled fontHeight lineRatio
  return lines * lineHeight ≤ boxHeight

/-- The first size that fits, going down at most `steps` sizes to the least one. -/
def descend
    (fitting : Int → Except NumericFault Bool)
    (least : Int) : Nat → Except NumericFault Int
  | 0 => do
      let _ ← fitting least
      return least
  | steps + 1 => do
      if ← fitting (least + (steps + 1 : Nat)) then
        return least + (steps + 1 : Nat)
      else
        descend fitting least steps

/-- The greatest size between two bounds that fits, or the lower bound. -/
def fontHeight
    (text : Text)
    (boxWidth boxHeight wanted least : Int) : Except NumericFault Int :=
  if wanted < least then
    .ok least
  else
    descend (fits text boxWidth boxHeight) least (wanted - least).toNat

end Fit
end LabelPress
