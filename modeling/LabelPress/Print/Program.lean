import LabelPress.Print.Symbology
import LabelPress.Text.Search

/-!
# Printer programs

A label as the printer gets it: a list of fields between a header and a footer.  Every
field can be seen as the list of its commands and is written on one line.  Data cannot
break the framing: the characters that start commands are replaced by spaces, which the
type of a payload records.
-/

namespace LabelPress

/-- Replace the characters that start a command by spaces. -/
def escapeData (text : Text) : Text :=
  text.map fun c => if c = '^' ∨ c = '~' then ' ' else c

/-- No character of an escaped text starts a command. -/
theorem not_mem_escapeData (text : Text) :
    '^' ∉ escapeData text ∧ '~' ∉ escapeData text := by
  constructor <;>
    · simp only [escapeData, List.mem_map, not_exists, not_and]
      intro c _
      split
      · decide
      · rename_i plain
        intro equal
        exact plain (by simp [equal])

/-- Field data without a character that starts a command. -/
structure Payload where
  /-- The data. -/
  text : Text
  /-- Neither command character occurs. -/
  plain : '^' ∉ text ∧ '~' ∉ text

/-- The payload that a text becomes. -/
def Payload.ofText (text : Text) : Payload :=
  ⟨escapeData text, not_mem_escapeData text⟩

/-- What a field prints. -/
inductive FieldBody where
  /-- Text in the scalable font. -/
  | text (orientation : Orientation) (height : Int) (data : Payload)
  /-- A barcode. -/
  | barcode (symbology : Symbology) (layout : Symbology.Layout) (data : Payload)
  /-- A QR code. -/
  | qr (magnification : Int) (level : CorrectionLevel) (data : Payload)
  /-- A frame, or a filled box if the border is thick enough. -/
  | box (width height thickness : Int)
  /-- A circle. -/
  | circle (diameter thickness : Int)

/-- One field of a label. -/
structure Field where
  /-- The distance from the left edge in dots. -/
  x : Int
  /-- The distance from the top edge in dots. -/
  y : Int
  /-- What is printed there. -/
  body : FieldBody

/-- A label as the printer gets it. -/
structure Program where
  /-- The width of the label in dots. -/
  width : Int
  /-- The height of the label in dots. -/
  height : Int
  /-- The fields in drawing order. -/
  fields : List Field

/-- A printer command: the name that follows the caret, and its operand. -/
structure Command where
  /-- The two letters of the command. -/
  name : Text
  /-- Everything up to the next command. -/
  operand : Text
deriving DecidableEq

namespace Command

/-- A command without an operand. -/
def bare (name : String) : Command :=
  ⟨name.toList, []⟩

/-- A command with numbers as operands. -/
def ofNumbers
    (name : String)
    (numbers : List Int) : Command :=
  ⟨name.toList, Symbology.operands (numbers.map Numeral.ofInt)⟩

/-- The text of a command. -/
def write (command : Command) : Text :=
  '^' :: (command.name ++ command.operand)

end Command

namespace FieldBody

/-- The commands of a field between its origin and its end. -/
def commands : FieldBody → List Command
  | .text orientation height data =>
      let size := Numeral.ofInt height
      [⟨"A0".toList, Symbology.operands [[orientation.code], size, size]⟩,
        ⟨"FD".toList, data.text⟩]
  | .barcode symbology layout data =>
      let command := symbology.command layout
      [⟨command.take 2, command.drop 2⟩, ⟨"FD".toList, data.text⟩]
  | .qr magnification level data =>
      [⟨"BQ".toList,
          Symbology.operands [['N'], ['2'], Numeral.ofInt magnification, [level.code]]⟩,
        ⟨"FD".toList, "QA,".toList ++ data.text⟩]
  | .box width height thickness => [Command.ofNumbers "GB" [width, height, thickness]]
  | .circle diameter thickness => [Command.ofNumbers "GC" [diameter, thickness]]

end FieldBody

namespace Field

/-- The commands of a field. -/
def commands (field : Field) : List Command :=
  Command.ofNumbers "FO" [field.x, field.y] :: field.body.commands ++ [Command.bare "FS"]

/-- The line of a field. -/
def write (field : Field) : Text :=
  field.commands.flatMap Command.write

end Field

namespace Program

/-- The commands of a label. -/
def commands (program : Program) : List Command :=
  [Command.bare "XA", Command.ofNumbers "PW" [program.width],
    Command.ofNumbers "LL" [program.height]] ++
    program.fields.flatMap Field.commands ++ [Command.bare "XZ"]

/-- The text of a label: header, one line per field, footer. -/
def write (program : Program) : Text :=
  Text.join ['\n']
    [(Command.bare "XA").write, (Command.ofNumbers "PW" [program.width]).write,
      (Command.ofNumbers "LL" [program.height]).write,
      Text.join ['\n'] (program.fields.map Field.write), (Command.bare "XZ").write]

end Program
end LabelPress
