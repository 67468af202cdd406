import LabelPress.Label.Content
import LabelPress.Print.Fit
import LabelPress.Print.Program
import LabelPress.Settings.Basic

/-!
# Fields of elements

The printer field of an element: its place and sizes in dots, and its content.  Sizes
that an element does not give have defaults, and no border is thinner than one dot.
-/

namespace LabelPress

/-- What the fields of one label have in common. -/
structure Scene where
  /-- The data of the label. -/
  row : Row
  /-- The place and the moment of the label. -/
  context : Context
  /-- The dots of a millimetre. -/
  dotsPerMillimetre : Int
  /-- The columns that the caller assigns to elements. -/
  mapping : ColumnMapping
  /-- The settings of rendering. -/
  settings : RenderSettings

namespace Scene

/-- The dots of a length in millimetres. -/
def dots
    (scene : Scene)
    (millimetres : Double) : Except NumericFault Int :=
  LabelPress.dots (.real millimetres) scene.dotsPerMillimetre

/-- The dots of a length in pixels. -/
def pixelDots
    (scene : Scene)
    (pixels : Double) : Except NumericFault Int := do
  scene.dots (← pixels.div? scene.settings.pixelsPerMillimetre)

end Scene

/-- A length that is neither missing nor zero, or a default. -/
def nonzeroOr
    (length : Option Double)
    (default : Double) : Double :=
  match length with
  | some value => if value.isZero then default else value
  | none => default

namespace Element

/-- The size of an element without one, in millimetres. -/
def defaultSize : Double := Double.ofInt 10

/-- The border of an element without one, in millimetres. -/
def defaultBorder : Double := Double.nearest false 1 2

/-- The width of the box that a text without a width is fitted into, in millimetres. -/
def defaultBoxWidth : Double := Double.ofInt 60

/-- The height of the box that a text without a height is fitted into, in millimetres. -/
def defaultBoxHeight : Double := Double.ofInt 14

/-- The least font size of a text without one, in pixels. -/
def defaultMinFontSize : Double := Double.ofInt 6

/-- The orientation of an element. -/
def orientation (element : Element) : Except NumericFault Orientation :=
  Orientation.ofRotation element.rotation.number?

/-- The font height of a text in dots, before any fitting. -/
def fontDots
    (element : Element)
    (scene : Scene) : Except NumericFault Int :=
  scene.pixelDots (nonzeroOr element.fontSize scene.settings.defaultFontSize)

/-- The font height of a text that shrinks until the text fits. -/
def fittedFontDots
    (element : Element)
    (scene : Scene)
    (text : Text)
    (wanted : Int) : Except NumericFault Int := do
  let boxWidth ← scene.dots (element.width.getD defaultBoxWidth)
  let boxHeight ← scene.dots (element.height.getD defaultBoxHeight)
  let least ← scene.pixelDots (nonzeroOr element.minFontSize defaultMinFontSize)
  Fit.fontHeight text boxWidth boxHeight wanted (max least 1)

/-- The field body of a text. -/
def textBody
    (element : Element)
    (scene : Scene) : Except NumericFault FieldBody := do
  let content ← element.displayText scene.row scene.context scene.mapping
  let data := Payload.ofText content
  let wanted ← element.fontDots scene
  let height ←
    if element.autoFit = some true ∧ data.text ≠ [] then
      element.fittedFontDots scene data.text wanted
    else
      pure wanted
  return .text (← element.orientation) height data

/-- The field body of a barcode. -/
def barcodeBody
    (element : Element)
    (scene : Scene) : Except NumericFault FieldBody := do
  let content ← element.codeText scene.row scene.context scene.mapping
  let height ← scene.dots (element.height.getD defaultSize)
  let orientation ← element.orientation
  return .barcode (Symbology.ofName element.barcodeFormat)
    ⟨orientation, height, element.barcodeShowText⟩ (Payload.ofText content)

/-- The field body of a QR code, whose magnification comes from its width. -/
def qrBody
    (element : Element)
    (scene : Scene) : Except NumericFault FieldBody := do
  let content ← element.codeText scene.row scene.context scene.mapping
  let size ← scene.dots (element.width.getD defaultSize)
  return .qr (max (size / 30) 2) (CorrectionLevel.ofName element.qrErrorLevel)
    (Payload.ofText content)

/-- The border of a shape in dots. -/
def borderDots
    (element : Element)
    (scene : Scene) : Except NumericFault Int := do
  return max (← scene.dots (element.borderWidth.getD defaultBorder)) 1

/-- The field body of a rectangle. -/
def rectangleBody
    (element : Element)
    (scene : Scene) : Except NumericFault FieldBody := do
  let width ← scene.dots (element.width.getD defaultSize)
  let height ← scene.dots (element.height.getD defaultSize)
  return .box width height (← element.borderDots scene)

/-- The field body of a line, whose thickness is its border or else its height. -/
def lineBody
    (element : Element)
    (scene : Scene) : Except NumericFault FieldBody := do
  let width ← scene.dots (element.width.getD defaultSize)
  let thickness ←
    scene.dots (element.borderWidth.getD (element.height.getD defaultBorder))
  return .box width (max thickness 1) (max thickness 1)

/-- The field body of a circle, whose diameter is the smaller of its sizes. -/
def circleBody
    (element : Element)
    (scene : Scene) : Except NumericFault FieldBody := do
  let diameter ←
    scene.dots
      (Double.least (element.width.getD defaultSize) (element.height.getD defaultSize))
  return .circle diameter (← element.borderDots scene)

/-- The field body of an image: a frame of one dot. -/
def imageBody
    (element : Element)
    (scene : Scene) : Except NumericFault FieldBody := do
  let width ← scene.dots (element.width.getD defaultSize)
  let height ← scene.dots (element.height.getD defaultSize)
  return .box width height 1

/-- The field body of an element of a known kind. -/
def body
    (element : Element)
    (kind : ElementKind)
    (scene : Scene) : Except NumericFault FieldBody :=
  match kind with
  | .text => element.textBody scene
  | .barcode => element.barcodeBody scene
  | .qr => element.qrBody scene
  | .rectangle => element.rectangleBody scene
  | .line => element.lineBody scene
  | .circle => element.circleBody scene
  | .image => element.imageBody scene

/-- The field of an element, none if its kind is unknown. -/
def field?
    (element : Element)
    (scene : Scene) : Except NumericFault (Option Field) :=
  match element.kind? with
  | none => .ok none
  | some kind => do
      let x ← scene.dots element.x
      let y ← scene.dots element.y
      return some ⟨x, y, ← element.body kind scene⟩

end Element
end LabelPress
