import LabelPress.Schema.Scalar

/-!
# Elements of a design

One item on a label with its place, its content and its looks.  All elements have the
same fields; which of them matter depends on the kind.  An element of an unknown kind is
kept as it is and not printed.
-/

namespace LabelPress

/-- The kinds of elements that can be printed. -/
inductive ElementKind where
  /-- Lines of text. -/
  | text
  /-- A barcode. -/
  | barcode
  /-- A QR code. -/
  | qr
  /-- A rectangle. -/
  | rectangle
  /-- A horizontal line. -/
  | line
  /-- A circle. -/
  | circle
  /-- An image, printed as a frame. -/
  | image
deriving DecidableEq

namespace ElementKind

/-- The name of a kind in a design. -/
def name : ElementKind → Text
  | .text => "text".toList
  | .barcode => "barcode".toList
  | .qr => "qr".toList
  | .rectangle => "rectangle".toList
  | .line => "line".toList
  | .circle => "circle".toList
  | .image => "image".toList

/-- All kinds. -/
def all : List ElementKind :=
  [.text, .barcode, .qr, .rectangle, .line, .circle, .image]

/-- The kind with a name. -/
def ofName? (name : Text) : Option ElementKind :=
  all.find? fun kind => kind.name == name

/-- A kind is found by its own name. -/
theorem ofName?_name (kind : ElementKind) :
    ofName? kind.name = some kind := by
  cases kind <;> decide

end ElementKind

/-- One item on a label; lengths are in millimetres from the top left corner. -/
structure Element where
  /-- The identifier of the element in its design. -/
  id : Text
  /-- The name of the kind of the element, known or not. -/
  type : Text
  /-- The distance from the left edge. -/
  x : Double
  /-- The distance from the top edge. -/
  y : Double
  /-- The width. -/
  width : Option Double
  /-- The height. -/
  height : Option Double
  /-- The rotation in degrees; any value that is no number means none. -/
  rotation : Document
  /-- A template, or the name of a column, that the content comes from. -/
  binding : Option Text
  /-- The fixed content. -/
  textContent : Option Text
  /-- The size of the font in pixels. -/
  fontSize : Option Double
  /-- The font family. -/
  fontFamily : Text
  /-- The font weight. -/
  fontWeight : Text
  /-- The alignment of the text. -/
  textAlign : Text
  /-- The color of the text. -/
  color : Text
  /-- The font shrinks until the text fits. -/
  autoFit : Option Bool
  /-- The least size of a shrinking font in pixels. -/
  minFontSize : Option Double
  /-- The name of the symbology of a barcode. -/
  barcodeFormat : Option Text
  /-- The content of a barcode is also printed as text. -/
  barcodeShowText : Bool
  /-- The name of the error correction level of a QR code. -/
  qrErrorLevel : Option Text
  /-- The width of lines and borders. -/
  borderWidth : Option Double
  /-- The color of the border. -/
  borderColor : Text
  /-- The color of the background. -/
  backgroundColor : Option Text
  /-- The radius of the corners. -/
  borderRadius : Double
  /-- The place of an image. -/
  imageUrl : Option Text
  /-- The layer; higher layers are drawn later. -/
  zIndex : Int
  /-- The element is printed. -/
  visible : Bool
  /-- The name of the element for the user. -/
  name : Option Text

namespace Element

/-- The kind of an element, if it is known. -/
def kind? (element : Element) : Option ElementKind :=
  ElementKind.ofName? element.type

/-- A field that is a number and takes its default where it is null. -/
def checkReal
    (entries : Document.Entries)
    (name : String) : Check Double :=
  Check.optional entries name (Double.zero false)
    (Check.nullAs (Double.zero false) Check.real)

/-- A field that is a text and takes its default where it is null. -/
def checkText
    (entries : Document.Entries)
    (name : String)
    (default : String) : Check Text :=
  Check.optional entries name default.toList (Check.nullAs default.toList Check.text)

/-- A field that is a truth value and takes its default where it is null. -/
def checkBoolean
    (entries : Document.Entries)
    (name : String)
    (default : Bool) : Check Bool :=
  Check.optional entries name default (Check.nullAs default Check.boolean)

/-- A field that is a number or null. -/
def checkReal?
    (entries : Document.Entries)
    (name : String)
    (default : Option Double) : Check (Option Double) :=
  Check.optional entries name default (Check.nullable Check.real)

/-- A field that is a text or null. -/
def checkText?
    (entries : Document.Entries)
    (name : String)
    (default : Option Text) : Check (Option Text) :=
  Check.optional entries name default (Check.nullable Check.text)

/-- The element with the fields of a mapping. -/
def ofEntries (entries : Document.Entries) : Check Element :=
  Check.accept Element.mk
    |>.andThen (Check.required entries "id" Check.text)
    |>.andThen (Check.required entries "type" Check.text)
    |>.andThen (checkReal entries "x")
    |>.andThen (checkReal entries "y")
    |>.andThen (checkReal? entries "width" none)
    |>.andThen (checkReal? entries "height" none)
    |>.andThen (Check.optional entries "rotation" (.real (Double.zero false)) .ok)
    |>.andThen (checkText? entries "binding" none)
    |>.andThen (checkText? entries "text_content" none)
    |>.andThen (checkReal? entries "font_size" none)
    |>.andThen (checkText entries "font_family" "Arial")
    |>.andThen (checkText entries "font_weight" "normal")
    |>.andThen (checkText entries "text_align" "left")
    |>.andThen (checkText entries "color" "#000000")
    |>.andThen
      (Check.optional entries "text_auto_fit" (some false) (Check.nullable Check.boolean))
    |>.andThen (checkReal? entries "text_min_font_size" (some (Double.ofInt 6)))
    |>.andThen (checkText? entries "barcode_format" (some "CODE128".toList))
    |>.andThen (checkBoolean entries "barcode_show_text" false)
    |>.andThen (checkText? entries "qr_error_level" (some "M".toList))
    |>.andThen (checkReal? entries "border_width" none)
    |>.andThen (checkText entries "border_color" "#000000")
    |>.andThen (checkText? entries "background_color" none)
    |>.andThen (checkReal entries "border_radius")
    |>.andThen (checkText? entries "image_url" none)
    |>.andThen (Check.optional entries "z_index" 0 (Check.nullAs 0 Check.integer))
    |>.andThen (checkBoolean entries "visible" true)
    |>.andThen (checkText? entries "name" none)

/-- The element that a value of a data file is. -/
def ofDocument : Document → Check Element
  | .mapping entries => ofEntries entries
  | _ => Check.reject .modelType

end Element
end LabelPress
