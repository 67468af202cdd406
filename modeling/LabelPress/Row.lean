import LabelPress.Calendar.Moment
import LabelPress.Number.Shortest
import LabelPress.Text.Case

/-!
# Data rows

A row is a list of named cells in the order in which they were given.  A column is
looked up by its exact name first and by its name in any case second, and a null cell
counts as missing in both.
-/

namespace LabelPress

/-- One value of a row. -/
inductive Cell where
  /-- No value. -/
  | null
  /-- A truth value. -/
  | flag (value : Bool)
  /-- A whole number. -/
  | integer (value : Int)
  /-- A double precision number. -/
  | real (value : Double)
  /-- A text. -/
  | text (value : Text)
  /-- A date. -/
  | date (value : Date)
  /-- A date with a time of day. -/
  | moment (value : Moment)
deriving DecidableEq

namespace Cell

/-- The text of a cell, none for a null cell. -/
def text? : Cell → Except NumericFault (Option Text)
  | .null => .ok none
  | .flag value => .ok (some (if value then "true".toList else "false".toList))
  | .integer value => (Numeral.write value).map some
  | .real value => .ok (some value.toText)
  | .text value => .ok (some value)
  | .date value => .ok (some value.isoText)
  | .moment value => .ok (some (value.write ' '))

/-- The cell holds no value. -/
def isNull : Cell → Bool
  | .null => true
  | _ => false

/-- The text of a cell, empty for a null cell. -/
def toText (cell : Cell) : Except NumericFault Text :=
  cell.text?.map fun text => text.getD []

end Cell

/-- What names a cell of a row; only a name can be asked for. -/
inductive ColumnKey where
  /-- A column name. -/
  | name (value : Text)
  /-- A number, which no column name equals. -/
  | number (value : Int)
deriving DecidableEq

/-- The cells of a row in their order. -/
abbrev Row := List (ColumnKey × Cell)

namespace Row

/-- Put a cell into a row: a known key keeps its place and takes the new cell. -/
def put
    (row : Row)
    (key : ColumnKey)
    (cell : Cell) : Row :=
  if row.any (·.1 == key) then
    row.map fun entry => if entry.1 = key then (key, cell) else entry
  else
    row ++ [(key, cell)]

/-- The row that a list of cells with possibly repeated keys makes. -/
def ofList (entries : List (ColumnKey × Cell)) : Row :=
  entries.foldl (fun row entry => row.put entry.1 entry.2) []

/-- The column key is a name that differs from a given one at most in case. -/
def matchesName
    (name : Text)
    (key : ColumnKey) : Bool :=
  match key with
  | .name other => Text.lower other == Text.lower name
  | .number _ => false

/-- The cell that a column name finds, exact names before names in another case. -/
def find?
    (row : Row)
    (name : Text) : Option Cell :=
  let present := row.filter fun entry => !entry.2.isNull
  match present.find? (·.1 == ColumnKey.name name) with
  | some entry => some entry.2
  | none => (present.find? (matchesName name ·.1)).map Prod.snd

/-- The text of the column that a name finds. -/
def column?
    (row : Row)
    (name : Text) : Except NumericFault (Option Text) :=
  match row.find? name with
  | none => .ok none
  | some cell => cell.text?

end Row
end LabelPress
