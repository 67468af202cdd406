import LabelPress.Design.Element
import LabelPress.Settings.Basic

/-!
# Defaults

The elements and settings of data files that say no more than they must.  Every default
passes the check of its own field, so that such a file is always accepted.
-/

namespace LabelPress

/-- An element of which only the kind is given. -/
def Element.ofKind (kind : ElementKind) : Element where
  id := []
  type := kind.name
  x := .zero false
  y := .zero false
  width := none
  height := none
  rotation := .real (.zero false)
  binding := none
  textContent := none
  fontSize := none
  fontFamily := "Arial".toList
  fontWeight := "normal".toList
  textAlign := "left".toList
  color := "#000000".toList
  autoFit := some false
  minFontSize := some (.ofInt 6)
  barcodeFormat := some "CODE128".toList
  barcodeShowText := false
  qrErrorLevel := some "M".toList
  borderWidth := none
  borderColor := "#000000".toList
  backgroundColor := none
  borderRadius := .zero false
  imageUrl := none
  zIndex := 0
  visible := true
  name := none

theorem Element.ofEntries_kind
    (id : Text)
    (kind : ElementKind) :
    Element.ofEntries
        [(.text "id".toList, .text id), (.text "type".toList, .text kind.name)] =
      .ok { Element.ofKind kind with id := id } := by
  rfl

theorem Element.kind?_ofKind (kind : ElementKind) :
    (Element.ofKind kind).kind? = some kind :=
  ElementKind.ofName?_name kind

/-- The settings of an empty file. -/
def Settings.initial : Settings where
  render := ⟨203, .ofInt 10, .ofInt 6⟩
  batch := ⟨1, 10000⟩
  logging := ⟨"INFO".toList⟩

theorem Settings.ofEntries_nil :
    Settings.ofEntries [] = .ok Settings.initial := by
  rfl

end LabelPress
