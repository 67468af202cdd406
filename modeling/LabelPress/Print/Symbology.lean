import LabelPress.Number.Numeral
import LabelPress.Print.Dots

/-!
# Symbologies

The kinds of barcodes and the command that selects each of them.  A symbology without a
command of its own is printed as Code 128.
-/

namespace LabelPress

/-- A kind of barcode. -/
inductive Symbology where
  /-- Code 128. -/
  | code128
  /-- Code 39. -/
  | code39
  /-- Code 93. -/
  | code93
  /-- EAN-13. -/
  | ean13
  /-- EAN-8. -/
  | ean8
  /-- UPC-A. -/
  | upc
  /-- ITF-14. -/
  | itf14
  /-- Codabar. -/
  | codabar
  /-- MSI. -/
  | msi
  /-- Data Matrix. -/
  | dataMatrix
  /-- PDF417. -/
  | pdf417
  /-- Aztec. -/
  | aztec
  /-- MaxiCode. -/
  | maxiCode
  /-- POSTNET. -/
  | postnet
  /-- PLANET. -/
  | planet
  /-- GS1-128. -/
  | gs1Code128
  /-- GS1 DataBar. -/
  | gs1DataBar
  /-- GS1 DataBar, stacked. -/
  | gs1DataBarStacked
  /-- GS1 DataBar, expanded. -/
  | gs1DataBarExpanded
deriving DecidableEq

namespace Symbology

/-- The name of a symbology in a design. -/
def name : Symbology → Text
  | .code128 => "CODE128".toList
  | .code39 => "CODE39".toList
  | .code93 => "CODE93".toList
  | .ean13 => "EAN13".toList
  | .ean8 => "EAN8".toList
  | .upc => "UPC".toList
  | .itf14 => "ITF14".toList
  | .codabar => "CODABAR".toList
  | .msi => "MSI".toList
  | .dataMatrix => "DATAMATRIX".toList
  | .pdf417 => "PDF417".toList
  | .aztec => "AZTEC".toList
  | .maxiCode => "MAXICODE".toList
  | .postnet => "POSTNET".toList
  | .planet => "PLANET".toList
  | .gs1Code128 => "GS1_128".toList
  | .gs1DataBar => "GS1_DATABAR".toList
  | .gs1DataBarStacked => "GS1_DATABAR_STACKED".toList
  | .gs1DataBarExpanded => "GS1_DATABAR_EXPANDED".toList

/-- All symbologies. -/
def all : List Symbology :=
  [.code128, .code39, .code93, .ean13, .ean8, .upc, .itf14, .codabar, .msi, .dataMatrix,
    .pdf417, .aztec, .maxiCode, .postnet, .planet, .gs1Code128, .gs1DataBar,
    .gs1DataBarStacked, .gs1DataBarExpanded]

/-- The symbology with a name, Code 128 for an unknown name. -/
def ofName (name : Option Text) : Symbology :=
  (all.find? fun symbology => some symbology.name == name).getD .code128

/-- A symbology is found by its own name. -/
theorem ofName_name (symbology : Symbology) :
    ofName (some symbology.name) = symbology := by
  cases symbology <;> decide

/-- What a barcode command says besides the symbology. -/
structure Layout where
  /-- The direction in which the barcode is printed. -/
  orientation : Orientation
  /-- The height of the bars in dots. -/
  height : Int
  /-- The content is also printed as text. -/
  readable : Bool

namespace Layout

/-- The magnification of a matrix code, from its height. -/
def magnification (layout : Layout) : Int :=
  max (layout.height / 20) 1

/-- The number of columns of a stacked code, from its height. -/
def columns (layout : Layout) : Int :=
  max (layout.height / 10) 1

end Layout

/-- The operands of a command, separated by commas. -/
def operands (parts : List Text) : Text :=
  match parts with
  | [] => []
  | first :: others => first ++ others.flatMap fun part => ',' :: part

/-- The command that selects a symbology, without its leading caret. -/
def command
    (symbology : Symbology)
    (layout : Layout) : Text :=
  let turn : Text := [layout.orientation.code]
  let height := Numeral.ofInt layout.height
  let readable : Text := [if layout.readable then 'Y' else 'N']
  let magnification := Numeral.ofInt layout.magnification
  let columns := Numeral.ofInt layout.columns
  let no : Text := ['N']
  match symbology with
  | .code39 => 'B' :: '3' :: operands [turn, no, height, readable, no]
  | .code93 => 'B' :: 'A' :: operands [turn, height, readable, no, no]
  | .ean13 => 'B' :: 'E' :: operands [turn, height, readable, no]
  | .ean8 => 'B' :: '8' :: operands [turn, height, readable, no]
  | .upc => 'B' :: 'U' :: operands [turn, height, readable, no, ['Y']]
  | .itf14 => 'B' :: 'I' :: operands [turn, height, readable, no]
  | .codabar => 'B' :: 'K' :: operands [turn, no, height, readable, no, ['A'], ['A']]
  | .dataMatrix => 'B' :: 'X' :: operands [no, magnification, "200".toList]
  | .pdf417 => 'B' :: '7' :: operands [turn, columns, ['0'], ['0'], ['0'], no]
  | .aztec => 'B' :: 'O' :: operands [turn, magnification, no]
  | .maxiCode => 'B' :: 'D' :: operands [turn, ['1'], ['Y']]
  | .postnet => 'B' :: 'Z' :: operands [turn, height, readable, no]
  | .planet => 'B' :: 'Z' :: operands [turn, height, readable, no]
  | .code128 | .msi | .gs1Code128 | .gs1DataBar | .gs1DataBarStacked
  | .gs1DataBarExpanded => 'B' :: 'C' :: operands [turn, height, readable, no, no]

end Symbology

/-- The error correction level of a QR code. -/
inductive CorrectionLevel where
  /-- The lowest level. -/
  | low
  /-- The usual level. -/
  | medium
  /-- A higher level. -/
  | quartile
  /-- The highest level. -/
  | high
deriving DecidableEq

namespace CorrectionLevel

/-- The letter of a level. -/
def code : CorrectionLevel → Char
  | .low => 'L'
  | .medium => 'M'
  | .quartile => 'Q'
  | .high => 'H'

/-- The level with a letter, the usual one for anything else. -/
def ofName (name : Option Text) : CorrectionLevel :=
  ([.low, .medium, .quartile, .high].find? fun level : CorrectionLevel =>
    some [level.code] == name).getD .medium

end CorrectionLevel
end LabelPress
