import LabelPress.Label.Field
import LabelPress.Options

/-!
# Rendering labels

A label is the fields of the visible elements of its design; a batch is the labels of
its rows one after the other, all at the same moment.
-/

namespace LabelPress

/-- Why a label could not be rendered. -/
inductive RenderFault where
  /-- Arithmetic or the writing of a number failed. -/
  | numeric (fault : NumericFault)
  /-- The options have no context. -/
  | options (issues : List Issue)

namespace Design

/-- The fields of a list of elements; elements of unknown kinds have none. -/
def fieldsOf
    (scene : Scene) : List Element → Except NumericFault (List Field)
  | [] => .ok []
  | element :: others => do
      let field ← element.field? scene
      let fields ← fieldsOf scene others
      return field.toList ++ fields

/-- The program of a label in a scene. -/
def program
    (design : Design)
    (scene : Scene) : Except NumericFault Program := do
  let width ← scene.dots design.width
  let height ← scene.dots design.height
  let fields ← fieldsOf scene design.visibleElements
  return ⟨width, height, fields⟩

/-- The scene of a label. -/
def scene
    (settings : Settings)
    (row : Row)
    (options : Options)
    (context : Context) : Scene where
  row := row
  context := context
  dotsPerMillimetre := dotsPerMillimetre (.integer options.dpi)
  mapping := options.columnMapping
  settings := settings.render

/-- The text of a label; the clock is read if the options have no moment. -/
def render
    (design : Design)
    (settings : Settings)
    (clock : Moment)
    (row : Row)
    (options : Options) : Except RenderFault Text :=
  match options.context clock with
  | .error issues => .error (.options issues)
  | .ok context =>
      match design.program (scene settings row options context) with
      | .error fault => .error (.numeric fault)
      | .ok program => .ok program.write

/-- The texts of the labels of some rows, the first at a given place of the batch. -/
def renderFrom
    (design : Design)
    (settings : Settings)
    (clock : Moment)
    (options : Options)
    (batchSize : Nat) : Nat → List Row → Except RenderFault (List Text)
  | _, [] => .ok []
  | place, row :: rows => do
      let label ← design.render settings clock row (options.forRow place batchSize)
      let labels ← renderFrom design settings clock options batchSize (place + 1) rows
      return label :: labels

/-- The text of a batch: the labels of its rows in their order, all at the same moment. -/
def renderBatch
    (design : Design)
    (settings : Settings)
    (clock : Moment)
    (rows : List Row)
    (options : Options) : Except RenderFault Text := do
  let labels ←
    renderFrom design settings clock (options.atMoment clock) (max rows.length 1) 0 rows
  return Text.join ['\n'] labels

end Design

/-- The options that a label gets if the caller gives none. -/
def Settings.defaultOptions (settings : Settings) : Options :=
  Options.ofResolution settings.render.defaultDpi

end LabelPress
