import LabelPress.Design.Element

/-!
# Designs

A label of a given size with its elements.  Elements are drawn by layers, within a layer
in the order in which the design lists them.
-/

namespace LabelPress

/-- The layout of a label. -/
structure Design where
  /-- The name of the design for the user. -/
  name : Option Text
  /-- The width of the label in millimetres. -/
  width : Double
  /-- The height of the label in millimetres. -/
  height : Double
  /-- The elements in the order of the design. -/
  elements : List Element

namespace Design

/-- The elements from the lowest layer to the highest. -/
def drawingOrder (design : Design) : List Element :=
  design.elements.mergeSort fun first second => first.zIndex ≤ second.zIndex

/-- The elements that are printed, in drawing order. -/
def visibleElements (design : Design) : List Element :=
  design.drawingOrder.filter Element.visible

/-- The design with the fields of a mapping. -/
def ofEntries (entries : Document.Entries) : Check Design :=
  Check.accept Design.mk
    |>.andThen (Element.checkText? entries "name" none)
    |>.andThen (Check.required entries "width_mm" Check.real)
    |>.andThen (Check.required entries "height_mm" Check.real)
    |>.andThen (Check.optional entries "elements" [] (Check.items Element.ofDocument))

end Design
end LabelPress
