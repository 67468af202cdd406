import LabelPress.Design.Basic
import LabelPress.Template

/-!
# The content of an element

A binding with a template is evaluated.  Any other binding is the name of a column; a
column that the caller assigns to the element comes before it, and the fixed text after
it.  Where a code finds nothing at all, its binding stands for itself.
-/

namespace LabelPress

/-- The columns that a caller assigns to elements, by their identifiers. -/
abbrev ColumnMapping := List (Text × Text)

namespace Element

/-- The binding is a template. -/
def template? (element : Element) : Option Text :=
  element.binding.filter Template.isExpression

/-- The name of the column that the caller assigns to an element. -/
def mappedColumn?
    (element : Element)
    (mapping : ColumnMapping) : Option Text :=
  (mapping.lookup element.id).filter fun column => !column.isEmpty

/-- The text of the column that the caller assigns to an element. -/
def mappedText?
    (element : Element)
    (row : Row)
    (mapping : ColumnMapping) : Except NumericFault (Option Text) :=
  match element.mappedColumn? mapping with
  | none => .ok none
  | some column => row.column? column

/-- The text of the column that an element is bound to. -/
def boundText?
    (element : Element)
    (row : Row) : Except NumericFault (Option Text) :=
  match element.binding with
  | none => .ok none
  | some binding => if binding.isEmpty then .ok none else row.column? binding

/-- The text of the assigned column or, without one, of the bound column. -/
def columnText?
    (element : Element)
    (row : Row)
    (mapping : ColumnMapping) : Except NumericFault (Option Text) := do
  match ← element.mappedText? row mapping with
  | some text => return some text
  | none => element.boundText? row

/-- The fixed text of an element. -/
def fixedText (element : Element) : Text :=
  element.textContent.getD []

/-- The text that a text element shows. -/
def displayText
    (element : Element)
    (row : Row)
    (context : Context)
    (mapping : ColumnMapping) : Except NumericFault Text :=
  match element.template? with
  | some template => .ok (Template.evaluate row context template)
  | none =>
      if (element.binding.getD []).isEmpty then
        .ok element.fixedText
      else do
        return (← element.columnText? row mapping).getD element.fixedText

/-- The text that a barcode or QR code encodes. -/
def codeText
    (element : Element)
    (row : Row)
    (context : Context)
    (mapping : ColumnMapping) : Except NumericFault Text :=
  match element.template? with
  | some template => .ok (Template.evaluate row context template)
  | none => do
      match ← element.columnText? row mapping with
      | some text => return text
      | none => return orElse element.fixedText (element.binding.getD [])

end Element
end LabelPress
