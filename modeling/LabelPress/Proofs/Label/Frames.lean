import LabelPress.Proofs.Label.Field
import LabelPress.Proofs.Print.Framing
import LabelPress.Proofs.Schema.Defaults

/-!
# Frames of elements

The commands that each element puts on a label.  Main statement: a printer that reads a
rendered label finds the header, the commands of each visible element in drawing order
with the content of the element as their data, and the footer; and all but the data and
the font heights of shrinking texts is fixed by the design before the row is known.
-/

namespace LabelPress

open Command

/-- Two scenes measure alike, whatever their rows hold. -/
structure Scene.SameScale (scene other : Scene) : Prop where
  dotsPerMillimetre : scene.dotsPerMillimetre = other.dotsPerMillimetre
  settings : scene.settings = other.settings

namespace Scene.SameScale

variable {scene other : Scene}

theorem dots_eq
    (same : SameScale scene other)
    (length : Double) :
    scene.dots length = other.dots length := by
  rw [Scene.dots, Scene.dots, same.dotsPerMillimetre]

theorem pixelDots_eq
    (same : SameScale scene other)
    (length : Double) :
    scene.pixelDots length = other.pixelDots length := by
  unfold Scene.pixelDots
  simp only [same.dots_eq, same.settings]

end Scene.SameScale

namespace Element

/-- The names of the commands between the origin and the end of a field. -/
def bodyNames (element : Element) : ElementKind → List Text
  | .text => ["A0".toList, "FD".toList]
  | .barcode => [(Symbology.ofName element.barcodeFormat).mnemonic, "FD".toList]
  | .qr => ["BQ".toList, "FD".toList]
  | .rectangle | .line | .image => ["GB".toList]
  | .circle => ["GC".toList]

/-- The names of the commands of an element. -/
def commandNames (element : Element) : List Text :=
  match element.kind? with
  | none => []
  | some kind => "FO".toList :: element.bodyNames kind ++ ["FS".toList]

/-- The field data of an element: its escaped content, if its kind has any. -/
def payloads
    (element : Element)
    (scene : Scene) : Except NumericFault (List Text) :=
  match element.kind? with
  | some .text =>
      (element.displayText scene.row scene.context scene.mapping).map fun content =>
        [escapeData content]
  | some .barcode =>
      (element.codeText scene.row scene.context scene.mapping).map fun content =>
        [escapeData content]
  | some .qr =>
      (element.codeText scene.row scene.context scene.mapping).map fun content =>
        ["QA,".toList ++ escapeData content]
  | _ => .ok []

/-- The text or the code that an element shows; a shape shows none. -/
def content
    (element : Element)
    (scene : Scene) : Except NumericFault Text :=
  match element.kind? with
  | some .text => element.displayText scene.row scene.context scene.mapping
  | some .barcode | some .qr => element.codeText scene.row scene.context scene.mapping
  | _ => .ok []

/-- What stands in front of the content in the field data of an element. -/
def dataMark (element : Element) : Text :=
  if element.kind? = some .qr then "QA,".toList else []

/-- Commands have the names of the commands of an element and hold its data. -/
structure IsFrame
    (element : Element)
    (scene : Scene)
    (frame : List Command) : Prop where
  names : frame.map Command.name = element.commandNames
  payloads : element.payloads scene = .ok (dataOf frame)

/-- A command without what may depend on the row: data and shrinking font heights. -/
def outlineCommand
    (element : Element)
    (command : Command) : Command :=
  if command.IsData then
    ⟨command.name, []⟩
  else if command.name = "A0".toList ∧ element.autoFit = some true then
    -- The orientation is the first letter of the operand.
    ⟨command.name, command.operand.take 1⟩
  else
    command

/-- The commands of an element without what may depend on the row. -/
def outline
    (element : Element)
    (frame : List Command) : List Command :=
  frame.map element.outlineCommand

variable {element : Element} {scene other : Scene}

/-- The commands of an element without a field of its own are none. -/
def fieldCommands (field : Option Field) : List Command :=
  (field.map Field.commands).getD []

theorem names_of_body
    {kind : ElementKind}
    {body : FieldBody}
    (made : element.body kind scene = .ok body) :
    body.commands.map Command.name = element.bodyNames kind := by
  cases kind with
  | text =>
      obtain ⟨content, orientation, height, -, -, -, rfl⟩ := textBody_eq_ok made
      rfl
  | barcode =>
      obtain ⟨content, orientation, height, -, -, -, rfl⟩ := barcodeBody_eq_ok made
      simp [FieldBody.commands, bodyNames, Symbology.take_command]
  | qr =>
      obtain ⟨content, size, -, -, rfl⟩ := qrBody_eq_ok made
      rfl
  | circle =>
      obtain ⟨diameter, thickness, rfl⟩ := isCircle_of_circleBody made
      rfl
  | rectangle | line | image =>
      obtain ⟨width, height, thickness, rfl⟩ := isBox_of_body (by simp) made
      rfl

theorem payloads_of_body
    {kind : ElementKind}
    {body : FieldBody}
    (known : element.kind? = some kind)
    (made : element.body kind scene = .ok body) :
    element.payloads scene = .ok body.data := by
  rw [payloads, known]
  cases kind with
  | text =>
      obtain ⟨content, orientation, height, shown, -, -, rfl⟩ := textBody_eq_ok made
      dsimp only
      rw [shown]
      rfl
  | barcode =>
      obtain ⟨content, orientation, height, shown, -, -, rfl⟩ := barcodeBody_eq_ok made
      dsimp only
      rw [shown]
      rfl
  | qr =>
      obtain ⟨content, size, shown, -, rfl⟩ := qrBody_eq_ok made
      dsimp only
      rw [shown]
      rfl
  | circle =>
      obtain ⟨diameter, thickness, rfl⟩ := isCircle_of_circleBody made
      rfl
  | rectangle | line | image =>
      obtain ⟨width, height, thickness, rfl⟩ := isBox_of_body (by simp) made
      rfl

/-- The field data of an element with a content is this content behind its mark. -/
theorem payloads_eq_map
    {kind : ElementKind}
    (known : element.kind? = some kind)
    (shows : kind ∈ [ElementKind.text, .barcode, .qr])
    (scene : Scene) :
    element.payloads scene =
      (element.content scene).map fun content => [element.dataMark ++ escapeData content] := by
  simp only [List.mem_cons, List.not_mem_nil, or_false] at shows
  rw [payloads, content, dataMark, known]
  rcases shows with rfl | rfl | rfl <;> rfl

/-- The commands of a field are those of its element and hold its data. -/
theorem isFrame_of_field?
    {field : Option Field}
    (made : element.field? scene = .ok field) :
    element.IsFrame scene (fieldCommands field) := by
  cases known : element.kind? with
  | none =>
      rw [field?, known] at made
      cases made
      exact ⟨by simp [commandNames, known, fieldCommands],
        by simp [Element.payloads, known, fieldCommands]⟩
  | some kind =>
      obtain ⟨x, y, body, -, -, printed, rfl⟩ := field?_eq_ok known made
      refine ⟨?_, ?_⟩
      · rw [commandNames, known]
        simp [fieldCommands, Field.commands, names_of_body printed, Command.ofNumbers,
          Command.bare]
      · rw [payloads_of_body known printed, fieldCommands, Option.map_some, Option.getD_some,
          Field.dataOf_commands]

theorem outline_textBody
    {body body' : FieldBody}
    (same : scene.SameScale other)
    (made : element.textBody scene = .ok body)
    (made' : element.textBody other = .ok body') :
    element.outline body.commands = element.outline body'.commands := by
  obtain ⟨content, orientation, height, -, turned, wanted, rfl⟩ := textBody_eq_ok made
  obtain ⟨content', orientation', height', -, turned', wanted', rfl⟩ := textBody_eq_ok made'
  rw [turned] at turned'
  cases turned'
  by_cases shrinks : element.autoFit = some true
  · simp [outline, outlineCommand, FieldBody.commands, shrinks, IsData, dataName,
      Symbology.operands]
  · have heights := wanted shrinks
    rw [fontDots, same.pixelDots_eq, same.settings, ← fontDots, wanted' shrinks] at heights
    cases heights
    simp [outline, outlineCommand, FieldBody.commands, shrinks, IsData, dataName]

theorem outline_barcodeBody
    {body body' : FieldBody}
    (same : scene.SameScale other)
    (made : element.barcodeBody scene = .ok body)
    (made' : element.barcodeBody other = .ok body') :
    element.outline body.commands = element.outline body'.commands := by
  obtain ⟨content, orientation, height, -, turned, high, rfl⟩ := barcodeBody_eq_ok made
  obtain ⟨content', orientation', height', -, turned', high', rfl⟩ := barcodeBody_eq_ok made'
  rw [turned] at turned'
  rw [same.dots_eq, high'] at high
  cases turned'
  cases high
  simp [outline, outlineCommand, FieldBody.commands, IsData, dataName]

theorem outline_qrBody
    {body body' : FieldBody}
    (same : scene.SameScale other)
    (made : element.qrBody scene = .ok body)
    (made' : element.qrBody other = .ok body') :
    element.outline body.commands = element.outline body'.commands := by
  obtain ⟨content, size, -, wide, rfl⟩ := qrBody_eq_ok made
  obtain ⟨content', size', -, wide', rfl⟩ := qrBody_eq_ok made'
  rw [same.dots_eq, wide'] at wide
  cases wide
  simp [outline, outlineCommand, FieldBody.commands, IsData, dataName]

/-- Shapes do not look at the row, so at one scale their bodies are the same. -/
theorem body_eq_of_shape
    {kind : ElementKind}
    (same : scene.SameScale other)
    (shape : kind ∈ [ElementKind.rectangle, .line, .circle, .image]) :
    element.body kind scene = element.body kind other := by
  simp only [List.mem_cons, List.not_mem_nil, or_false] at shape
  rcases shape with rfl | rfl | rfl | rfl
  · simp only [Element.body, rectangleBody, borderDots, same.dots_eq]
  · simp only [Element.body, lineBody, same.dots_eq]
  · simp only [Element.body, circleBody, borderDots, same.dots_eq]
  · simp only [Element.body, imageBody, same.dots_eq]

/-- Beyond the scale the body of an element depends on nothing but its content. -/
theorem body_eq_of_content
    {kind : ElementKind}
    (known : element.kind? = some kind)
    (same : scene.SameScale other)
    (shown : element.content scene = element.content other) :
    element.body kind scene = element.body kind other := by
  rw [content, content, known] at shown
  cases kind with
  | text =>
      dsimp only at shown
      simp only [body, textBody, fontDots, fittedFontDots, shown, same.settings, same.dots_eq,
        same.pixelDots_eq]
  | barcode =>
      dsimp only at shown
      simp only [body, barcodeBody, shown, same.dots_eq]
  | qr =>
      dsimp only at shown
      simp only [body, qrBody, shown, same.dots_eq]
  | rectangle | line | circle | image => exact body_eq_of_shape same (by simp)

theorem field?_eq_of_content
    (same : scene.SameScale other)
    (shown : element.content scene = element.content other) :
    element.field? scene = element.field? other := by
  unfold field?
  cases known : element.kind? with
  | none => rfl
  | some kind => simp only [same.dots_eq, body_eq_of_content known same shown]

/-- Elements of one scale have the same bodies but for data and shrinking heights. -/
theorem outline_body
    {kind : ElementKind}
    {body body' : FieldBody}
    (same : scene.SameScale other)
    (made : element.body kind scene = .ok body)
    (made' : element.body kind other = .ok body') :
    element.outline body.commands = element.outline body'.commands := by
  cases kind with
  | text => exact outline_textBody same made made'
  | barcode => exact outline_barcodeBody same made made'
  | qr => exact outline_qrBody same made made'
  | rectangle | line | circle | image =>
      rw [body_eq_of_shape same (by simp), made'] at made
      cases made
      rfl

theorem outline_field?
    {field field' : Option Field}
    (same : scene.SameScale other)
    (made : element.field? scene = .ok field)
    (made' : element.field? other = .ok field') :
    element.outline (fieldCommands field) = element.outline (fieldCommands field') := by
  cases known : element.kind? with
  | none =>
      rw [field?, known] at made made'
      cases made
      cases made'
      rfl
  | some kind =>
      obtain ⟨x, y, body, atX, atY, printed, rfl⟩ := field?_eq_ok known made
      obtain ⟨x', y', body', atX', atY', printed', rfl⟩ := field?_eq_ok known made'
      rw [same.dots_eq, atX'] at atX
      rw [same.dots_eq, atY'] at atY
      cases atX
      cases atY
      have inner := outline_body same printed printed'
      simp only [outline] at inner
      simp [outline, fieldCommands, Field.commands, inner]

end Element
namespace Design

theorem sameScale_scene
    (settings : Settings)
    (options : Options)
    (row row' : Row)
    (context context' : Context) :
    (scene settings row options context).SameScale (scene settings row' options context') :=
  ⟨rfl, rfl⟩

theorem forall₂_isFrame
    {scene : Scene}
    {elements : List Element}
    {found : List (Option Field)}
    (made : List.Forall₂ (fun element field => element.field? scene = .ok field) elements found) :
    List.Forall₂ (fun element frame => element.IsFrame scene frame) elements
      (found.map Element.fieldCommands) := by
  rw [List.forall₂_map_right_iff]
  exact made.imp fun _ _ => Element.isFrame_of_field?

theorem outlines_eq
    {scene other : Scene}
    {elements : List Element}
    {found found' : List (Option Field)}
    (same : scene.SameScale other)
    (made : List.Forall₂ (fun element field => element.field? scene = .ok field) elements found)
    (made' :
      List.Forall₂ (fun element field => element.field? other = .ok field) elements found') :
    List.zipWith Element.outline elements (found.map Element.fieldCommands) =
      List.zipWith Element.outline elements (found'.map Element.fieldCommands) := by
  induction made generalizing found' with
  | nil =>
      cases made'
      rfl
  | cons first others inductionHypothesis =>
      cases made' with
      | cons first' others' =>
          rw [List.map_cons, List.map_cons, List.zipWith_cons_cons, List.zipWith_cons_cons,
            Element.outline_field? same first first', inductionHypothesis others']

theorem flatMap_commands (found : List (Option Field)) :
    (found.flatMap Option.toList).flatMap Field.commands =
      (found.map Element.fieldCommands).flatten := by
  induction found with
  | nil => rfl
  | cons field others inductionHypothesis =>
      cases field with
      | none => simpa [Element.fieldCommands] using inductionHypothesis
      | some field => simpa [Element.fieldCommands] using inductionHypothesis

/-- A rendered label is a program whose fields are those of its visible elements. -/
theorem exists_fields_of_render
    {design : Design}
    {settings : Settings}
    {options : Options}
    {clock : Moment}
    {row : Row}
    {text : Text}
    (rendered : design.render settings clock row options = .ok text) :
    ∃ context width height found,
      options.context clock = .ok context ∧
        (scene settings row options context).dots design.width = .ok width ∧
        (scene settings row options context).dots design.height = .ok height ∧
        List.Forall₂
          (fun element field =>
            element.field? (scene settings row options context) = .ok field)
          design.visibleElements found ∧
        text = Program.write ⟨width, height, found.flatMap Option.toList⟩ := by
  obtain ⟨context, program, valid, made, rfl⟩ := render_eq_ok rendered
  obtain ⟨wide, high, drawn⟩ := program_eq_ok made
  obtain ⟨found, each, fields⟩ := fieldsOf_eq_ok drawn
  refine ⟨context, program.width, program.height, found, valid, wide, high, each, ?_⟩
  rw [← fields]

/--
A rendered label is read back as its header, the commands of each visible element with
its own content as data, and its footer.  What is left of the commands without data and
shrinking font heights is the same for every row.
-/
theorem render_framed
    (design : Design)
    (settings : Settings)
    (options : Options) :
    ∃ (width height : Int) (outlines : List (List Command)),
      ∀ clock row text,
        design.render settings clock row options = .ok text →
          '~' ∉ text ∧
            ∃ context frames,
              options.context clock = .ok context ∧
                readAll? text =
                  some
                    ([Command.bare "XA", Command.ofNumbers "PW" [width],
                        Command.ofNumbers "LL" [height]] ++
                      frames.flatten ++ [Command.bare "XZ"]) ∧
                List.Forall₂
                  (fun element frame =>
                    element.IsFrame (scene settings row options context) frame)
                  design.visibleElements frames ∧
                List.zipWith Element.outline design.visibleElements frames = outlines := by
  by_cases some : ∃ clock row text, design.render settings clock row options = .ok text
  · obtain ⟨clock, row, text, rendered⟩ := some
    obtain ⟨context, width, height, found, -, wide, high, each, -⟩ :=
      exists_fields_of_render rendered
    refine ⟨width, height,
      List.zipWith Element.outline design.visibleElements (found.map Element.fieldCommands), ?_⟩
    intro clock' row' text' rendered'
    obtain ⟨context', width', height', found', valid', wide', high', each', rfl⟩ :=
      exists_fields_of_render rendered'
    have same := sameScale_scene settings options row' row context' context
    rw [same.dots_eq, wide] at wide'
    rw [same.dots_eq, high] at high'
    cases wide'
    cases high'
    refine ⟨Program.tilde_not_mem_write _, context', found'.map Element.fieldCommands, valid',
      ?_, forall₂_isFrame each', outlines_eq same each' each⟩
    rw [Program.readAll?_write, Program.commands, flatMap_commands]
  · refine ⟨0, 0, [], ?_⟩
    intro clock row text rendered
    exact absurd ⟨clock, row, text, rendered⟩ some

theorem visibleElements_singleton
    {design : Design}
    {element : Element}
    (only : design.elements = [element])
    (visible : element.visible = true) :
    design.visibleElements = [element] := by
  simp [visibleElements, drawingOrder, only, visible]

theorem render_framed_carets :
    let element : Element :=
      { Element.ofKind .text with
        x := .ofInt 1
        y := .ofInt 2
        rotation := .null
        binding := some "name".toList
        fontSize := some (.ofInt 12) }
    let design : Design := ⟨none, .ofInt 50, .ofInt 30, [element]⟩
    let row : Row := [(.name "name".toList, .text "^XZ~".toList)]
    let clock : Moment := .midnight ⟨2026, 3, 15, by decide, by decide, by decide⟩
    let text := "^XA\n^PW400\n^LL240\n^FO8,16^A0N,16,16^FD XZ ^FS\n^XZ".toList
    design.render .initial clock row (.ofResolution 203) = .ok text ∧
      ∃ width height frames,
        readAll? text =
          some
            ([Command.bare "XA", Command.ofNumbers "PW" [width],
                Command.ofNumbers "LL" [height]] ++
              List.flatten frames ++ [Command.bare "XZ"]) := by
  intro element design row clock text
  have rendered : design.render .initial clock row (.ofResolution 203) = .ok text := by
    unfold render program
    rw [@visibleElements_singleton design element rfl rfl]
    simp only [design, element, row, clock, text]
    rfl
  obtain ⟨width, height, outlines, framed⟩ :=
    render_framed design .initial (.ofResolution 203)
  obtain ⟨-, context, frames, -, found, -⟩ := framed clock row text rendered
  exact ⟨rendered, width, height, frames, found⟩

end Design
end LabelPress
