import LabelPress.Label.Render
import LabelPress.Proofs.Outcome
import Mathlib.Data.List.Forall2

/-!
# Fields that come out

What a field holds when the measures and the content of its element come out: one
statement for the body of each kind of element, and from these the fields of a list of
elements.
-/

namespace LabelPress
namespace Element

variable {element : Element} {scene : Scene}

/-- The font height of a text with some data, from the height before any fitting. -/
def textHeight
    (element : Element)
    (scene : Scene)
    (data : Text)
    (wanted : Int) : Except NumericFault Int :=
  if element.autoFit = some true ∧ data ≠ [] then
    element.fittedFontDots scene data wanted
  else
    .ok wanted

theorem textBody_eq
    (element : Element)
    (scene : Scene) :
    element.textBody scene = do
      let content ← element.displayText scene.row scene.context scene.mapping
      let wanted ← element.fontDots scene
      let height ← element.textHeight scene (escapeData content) wanted
      let orientation ← element.orientation
      return .text orientation height (.ofText content) := by
  unfold textBody textHeight
  apply bind_congr
  intro content
  dsimp only [Payload.ofText]
  apply bind_congr
  intro wanted
  split <;> rfl

/-- The parts of a text: only a shrinking font height depends on the content. -/
theorem textBody_eq_ok
    {body : FieldBody}
    (made : element.textBody scene = .ok body) :
    ∃ content orientation height,
      element.displayText scene.row scene.context scene.mapping = .ok content ∧
        element.orientation = .ok orientation ∧
        (element.autoFit ≠ some true → element.fontDots scene = .ok height) ∧
        body = .text orientation height (.ofText content) := by
  rw [textBody_eq] at made
  obtain ⟨content, shown, made⟩ := bind_eq_ok.1 made
  obtain ⟨wanted, measured, made⟩ := bind_eq_ok.1 made
  obtain ⟨height, fitted, made⟩ := bind_eq_ok.1 made
  obtain ⟨orientation, turned, made⟩ := bind_eq_ok.1 made
  cases made
  refine ⟨content, orientation, height, shown, turned, ?_, rfl⟩
  intro fixed
  rw [textHeight, if_neg fun shrinks => fixed shrinks.1] at fitted
  cases fitted
  exact measured

theorem barcodeBody_eq_ok
    {body : FieldBody}
    (made : element.barcodeBody scene = .ok body) :
    ∃ content orientation height,
      element.codeText scene.row scene.context scene.mapping = .ok content ∧
        element.orientation = .ok orientation ∧
        scene.dots (element.height.getD defaultSize) = .ok height ∧
        body =
          .barcode (Symbology.ofName element.barcodeFormat)
            ⟨orientation, height, element.barcodeShowText⟩ (.ofText content) := by
  obtain ⟨content, shown, made⟩ := bind_eq_ok.1 made
  obtain ⟨height, measured, made⟩ := bind_eq_ok.1 made
  obtain ⟨orientation, turned, made⟩ := bind_eq_ok.1 made
  cases made
  exact ⟨content, orientation, height, shown, turned, measured, rfl⟩

theorem qrBody_eq_ok
    {body : FieldBody}
    (made : element.qrBody scene = .ok body) :
    ∃ content size,
      element.codeText scene.row scene.context scene.mapping = .ok content ∧
        scene.dots (element.width.getD defaultSize) = .ok size ∧
        body =
          .qr (max (size / 30) 2) (CorrectionLevel.ofName element.qrErrorLevel)
            (.ofText content) := by
  obtain ⟨content, shown, made⟩ := bind_eq_ok.1 made
  obtain ⟨size, measured, made⟩ := bind_eq_ok.1 made
  cases made
  exact ⟨content, size, shown, measured, rfl⟩

/-- A rectangle, a line, or the frame of an image. -/
def IsBox (body : FieldBody) : Prop :=
  ∃ width height thickness, body = .box width height thickness

theorem isBox_of_rectangleBody
    {body : FieldBody}
    (made : element.rectangleBody scene = .ok body) :
    IsBox body := by
  obtain ⟨width, -, made⟩ := bind_eq_ok.1 made
  obtain ⟨height, -, made⟩ := bind_eq_ok.1 made
  obtain ⟨border, -, made⟩ := bind_eq_ok.1 made
  cases made
  exact ⟨_, _, _, rfl⟩

theorem isBox_of_lineBody
    {body : FieldBody}
    (made : element.lineBody scene = .ok body) :
    IsBox body := by
  obtain ⟨width, -, made⟩ := bind_eq_ok.1 made
  obtain ⟨thickness, -, made⟩ := bind_eq_ok.1 made
  cases made
  exact ⟨_, _, _, rfl⟩

theorem isBox_of_imageBody
    {body : FieldBody}
    (made : element.imageBody scene = .ok body) :
    IsBox body := by
  obtain ⟨width, -, made⟩ := bind_eq_ok.1 made
  obtain ⟨height, -, made⟩ := bind_eq_ok.1 made
  cases made
  exact ⟨_, _, _, rfl⟩

theorem isBox_of_body
    {kind : ElementKind}
    {body : FieldBody}
    (boxed : kind ∈ [ElementKind.rectangle, .line, .image])
    (made : element.body kind scene = .ok body) :
    IsBox body := by
  simp only [List.mem_cons, List.not_mem_nil, or_false] at boxed
  rcases boxed with rfl | rfl | rfl
  · exact isBox_of_rectangleBody made
  · exact isBox_of_lineBody made
  · exact isBox_of_imageBody made

theorem isCircle_of_circleBody
    {body : FieldBody}
    (made : element.circleBody scene = .ok body) :
    ∃ diameter thickness, body = .circle diameter thickness := by
  obtain ⟨diameter, -, made⟩ := bind_eq_ok.1 made
  obtain ⟨border, -, made⟩ := bind_eq_ok.1 made
  cases made
  exact ⟨_, _, rfl⟩

theorem field?_eq_ok
    {kind : ElementKind}
    {field : Option Field}
    (known : element.kind? = some kind)
    (made : element.field? scene = .ok field) :
    ∃ x y body,
      scene.dots element.x = .ok x ∧ scene.dots element.y = .ok y ∧
        element.body kind scene = .ok body ∧ field = some ⟨x, y, body⟩ := by
  rw [field?, known] at made
  obtain ⟨x, atX, made⟩ := bind_eq_ok.1 made
  obtain ⟨y, atY, made⟩ := bind_eq_ok.1 made
  obtain ⟨body, printed, made⟩ := bind_eq_ok.1 made
  cases made
  exact ⟨x, y, body, atX, atY, printed, rfl⟩

end Element

/-- The fields of a label are those of its elements. -/
theorem Design.fieldsOf_eq_ok
    {scene : Scene}
    {elements : List Element}
    {fields : List Field}
    (made : fieldsOf scene elements = .ok fields) :
    ∃ found : List (Option Field),
      List.Forall₂ (fun element field => element.field? scene = .ok field) elements found ∧
        fields = found.flatMap Option.toList := by
  induction elements generalizing fields with
  | nil =>
      cases made
      exact ⟨[], .nil, rfl⟩
  | cons element others inductionHypothesis =>
      obtain ⟨field, first, made⟩ := bind_eq_ok.1 made
      obtain ⟨rest, later, made⟩ := bind_eq_ok.1 made
      cases made
      obtain ⟨found, each, rfl⟩ := inductionHypothesis later
      exact ⟨field :: found, .cons first each, rfl⟩

/-- Elements with the same fields in two scenes have the same list of fields there. -/
theorem Design.fieldsOf_congr
    {scene other : Scene}
    {elements : List Element}
    (each : ∀ element ∈ elements, element.field? scene = element.field? other) :
    fieldsOf scene elements = fieldsOf other elements := by
  induction elements with
  | nil => rfl
  | cons element others inductionHypothesis =>
      rw [List.forall_mem_cons] at each
      rw [fieldsOf, fieldsOf, each.1, inductionHypothesis each.2]

/-- The parts of a rendered label. -/
theorem Design.render_eq_ok
    {design : Design}
    {settings : Settings}
    {clock : Moment}
    {row : Row}
    {options : Options}
    {text : Text}
    (rendered : design.render settings clock row options = .ok text) :
    ∃ context program,
      options.context clock = .ok context ∧
        design.program (scene settings row options context) = .ok program ∧
        text = program.write := by
  unfold Design.render at rendered
  split at rendered
  · cases rendered
  · rename_i context valid
    split at rendered
    · cases rendered
    · rename_i program made
      cases rendered
      exact ⟨context, program, valid, made, rfl⟩

theorem Design.program_eq_ok
    {design : Design}
    {scene : Scene}
    {program : Program}
    (made : design.program scene = .ok program) :
    scene.dots design.width = .ok program.width ∧
      scene.dots design.height = .ok program.height ∧
      fieldsOf scene design.visibleElements = .ok program.fields := by
  obtain ⟨width, wide, made⟩ := bind_eq_ok.1 made
  obtain ⟨height, high, made⟩ := bind_eq_ok.1 made
  obtain ⟨fields, drawn, made⟩ := bind_eq_ok.1 made
  cases made
  exact ⟨wide, high, drawn⟩

end LabelPress
