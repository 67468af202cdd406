import LabelPress.Proofs.Label.DrawingOrder
import LabelPress.Proofs.Text.Pieces

/-!
# Lines of a label

How a label is cut into lines.  Main statement: a label with drawn elements has a line for
each part of its header and footer and one for each drawn element, and beyond these one line
for each line feed in the contents of the elements.

Data is freed of the characters that start commands only, so the line feeds of a content stay
in it.  Names and operands of commands hold none.
-/

namespace LabelPress

open Command

/-! ## Line feeds in commands -/

theorem count_escapeData (text : Text) :
    (escapeData text).count '\n' = text.count '\n' := by
  rw [escapeData, List.count, List.countP_map]
  apply List.countP_congr
  intro c _
  by_cases command : c = '^' ∨ c = '~'
  · rcases command with rfl | rfl <;> decide
  · simp [command]

theorem Command.Framed.count_write
    {command : Command}
    (framed : command.Framed) :
    command.write.count '\n' = if command.IsData then command.operand.count '\n' else 0 := by
  have name : command.name.count '\n' = 0 :=
    List.count_eq_zero.2 (framed.plainName.not_mem (by decide))
  rw [write, List.count_cons_of_ne (by decide), List.count_append, name, Nat.zero_add]
  split
  · rfl
  · rename_i other
    exact List.count_eq_zero.2 (framed.oneLine other)

/-- All line feeds of written commands stand in their data. -/
theorem Command.count_flatMap_write
    {commands : List Command}
    (framed : ∀ command ∈ commands, command.Framed) :
    (commands.flatMap write).count '\n' = (dataOf commands).flatten.count '\n' := by
  induction commands with
  | nil => rfl
  | cons command others inductionHypothesis =>
      rw [List.forall_mem_cons] at framed
      rw [List.flatMap_cons, List.count_append, framed.1.count_write,
        inductionHypothesis framed.2, dataOf_cons]
      split
      · rw [List.flatten_cons, List.count_append]
      · rw [Nat.zero_add]

theorem Field.framed_of_mem_commands
    (field : Field) :
    ∀ command ∈ field.commands, command.Framed := by
  have last : (Command.bare "FS").Framed := .of_unmarked (by decide) (by decide) (by decide)
  rw [Field.commands, List.cons_append, List.forall_mem_cons, List.forall_mem_append,
    List.forall_mem_singleton]
  exact ⟨.ofNumbers (by decide) (by decide) _, field.body.framed_of_mem_commands, last⟩

theorem Field.count_write (field : Field) :
    field.write.count '\n' = field.body.data.flatten.count '\n' := by
  rw [Field.write, count_flatMap_write field.framed_of_mem_commands, field.dataOf_commands]

theorem Field.isPrefix_write (field : Field) :
    "^FO".toList <+: field.write := by
  rw [Field.write, Field.commands, List.cons_append, List.flatMap_cons]
  exact ⟨_, rfl⟩

/-! ## Blocks of elements -/

namespace Element

variable {element : Element} {scene : Scene}

/-- The number of line feeds in the content of an element. -/
def breaks
    (element : Element)
    (scene : Scene) : Nat :=
  match element.content scene with
  | .ok content => content.count '\n'
  | .error _ => 0

/-- A text is what an element puts on a label. -/
structure IsBlock
    (element : Element)
    (scene : Scene)
    (block : Text) : Prop where
  /-- It is the field of the element. -/
  written : ∃ field, element.field? scene = .ok (some field) ∧ block = field.write
  /-- It starts with the place of the field. -/
  origin : "^FO".toList <+: block
  /-- The element has a content. -/
  shown : Succeeds (element.content scene)
  /-- Only the content breaks the line. -/
  breaks : block.count '\n' = element.breaks scene

/-- The line feeds in the field data of an element are those of its content. -/
theorem count_data
    {kind : ElementKind}
    {body : FieldBody}
    (known : element.kind? = some kind)
    (made : element.body kind scene = .ok body) :
    ∃ content,
      element.content scene = .ok content ∧
        body.data.flatten.count '\n' = content.count '\n' := by
  have data := payloads_of_body known made
  by_cases shows : kind ∈ [ElementKind.text, .barcode, .qr]
  · rw [payloads_eq_map known shows] at data
    obtain ⟨content, shown, data⟩ := map_eq_ok.1 data
    have mark : element.dataMark.count '\n' = 0 := by
      rw [dataMark]
      split <;> rfl
    refine ⟨content, shown, ?_⟩
    rw [← data, List.flatten_singleton, List.count_append, mark, Nat.zero_add,
      count_escapeData]
  · rw [payloads, known] at data
    rw [content, known]
    cases kind with
    | text | barcode | qr => exact absurd shows (by simp)
    | rectangle | line | circle | image =>
        have none : body.data = [] := (Except.ok.inj data).symm
        exact ⟨[], rfl, by rw [none]; rfl⟩

theorem breaks_eq_zero_iff :
    element.breaks scene = 0 ↔
      ∀ content, element.content scene = .ok content → '\n' ∉ content := by
  rw [breaks]
  cases element.content scene with
  | ok content => simp [List.count_eq_zero]
  | error fault => simp

theorem isBlock_write
    {field : Field}
    (made : element.field? scene = .ok (some field)) :
    element.IsBlock scene field.write := by
  cases known : element.kind? with
  | none =>
      rw [field?, known] at made
      cases made
  | some kind =>
      obtain ⟨x, y, body, -, -, printed, same⟩ := field?_eq_ok known made
      cases same
      obtain ⟨content, shown, count⟩ := count_data known printed
      refine ⟨⟨_, made, rfl⟩, Field.isPrefix_write _, ⟨content, shown⟩, ?_⟩
      rw [Field.count_write, count, Element.breaks, shown]

end Element

/-! ## Lines of programs -/

/-- The lines of a label with some blocks on it. -/
def labelLines
    (width height : Int)
    (blocks : List Text) : List Text :=
  ["^XA".toList, "^PW".toList ++ Numeral.ofInt width, "^LL".toList ++ Numeral.ofInt height] ++
    blocks ++ ["^XZ".toList]

theorem Program.write_eq_join
    {program : Program}
    (nonempty : program.fields ≠ []) :
    program.write =
      Text.join ['\n']
        (labelLines program.width program.height (program.fields.map Field.write)) := by
  have blocks : program.fields.map Field.write ≠ [] := by simpa using nonempty
  rw [labelLines, Text.join_append _ (by simp) (by simp), Text.join_append _ (by simp) blocks]
  simp [Program.write, Text.join, Command.write, Command.bare, Command.ofNumbers,
    Symbology.operands]

theorem newline_not_mem_ofInt (n : Int) :
    '\n' ∉ Numeral.ofInt n :=
  (Unmarked.ofInt n).not_mem (by decide)

/-- Neither the header nor the footer of a label breaks a line. -/
theorem forall_mem_labelLines
    {width height : Int}
    {blocks : List Text} :
    (∀ line ∈ labelLines width height blocks, '\n' ∉ line) ↔ ∀ block ∈ blocks, '\n' ∉ block := by
  simp [labelLines, or_imp, forall_and, newline_not_mem_ofInt]

theorem sum_count_labelLines
    (width height : Int)
    (blocks : List Text) :
    ((labelLines width height blocks).map (List.count '\n')).sum =
      (blocks.map (List.count '\n')).sum := by
  have number (n : Int) : (Numeral.ofInt n).count '\n' = 0 :=
    List.count_eq_zero.2 (newline_not_mem_ofInt n)
  simp [labelLines, number]

namespace Design

section Blocks

variable {scene : Scene} {elements : List Element} {fields : List Field} {blocks : List Text}

/-- Elements of known kinds have one field each. -/
theorem forall₂_of_fieldsOf
    (known : ∀ element ∈ elements, element.kind?.isSome = true)
    (made : fieldsOf scene elements = .ok fields) :
    List.Forall₂ (fun element field => element.field? scene = .ok (some field)) elements
      fields := by
  induction elements generalizing fields with
  | nil =>
      cases made
      exact .nil
  | cons element others inductionHypothesis =>
      rw [List.forall_mem_cons] at known
      obtain ⟨kind, kindKnown⟩ := Option.isSome_iff_exists.1 known.1
      obtain ⟨field, first, made⟩ := bind_eq_ok.1 made
      obtain ⟨rest, later, made⟩ := bind_eq_ok.1 made
      cases made
      obtain ⟨x, y, body, -, -, -, rfl⟩ := Element.field?_eq_ok kindKnown first
      exact .cons first (inductionHypothesis known.2 later)

/-- Blocks break their lines as often as the contents of their elements do. -/
theorem map_count_eq
    (each : List.Forall₂ (fun element block => element.IsBlock scene block) elements blocks) :
    blocks.map (List.count '\n') = elements.map fun element => element.breaks scene := by
  induction each with
  | nil => rfl
  | cons first others inductionHypothesis =>
      rw [List.map_cons, List.map_cons, first.breaks, inductionHypothesis]

theorem newline_not_mem_blocks_iff
    (each : List.Forall₂ (fun element block => element.IsBlock scene block) elements blocks) :
    (∀ block ∈ blocks, '\n' ∉ block) ↔
      ∀ element ∈ elements, ∀ content,
        element.content scene = .ok content → '\n' ∉ content := by
  calc
    (∀ block ∈ blocks, '\n' ∉ block) ↔ ∀ count ∈ blocks.map (List.count '\n'), count = 0 := by
      simp [List.count_eq_zero]
    _ ↔ ∀ count ∈ elements.map (fun element => element.breaks scene), count = 0 := by
      rw [map_count_eq each]
    _ ↔ _ := by
      simp only [List.forall_mem_map, Element.breaks_eq_zero_iff]

end Blocks

/--
The text of a label with drawn elements: the lines of its header, one block for each of these
elements in drawing order, and the line of its footer.  It is cut into one line for each of
these and one for each line feed in a content, so no block is cut exactly if no content holds
a line feed.
-/
theorem render_lines
    {design : Design}
    {settings : Settings}
    {clock : Moment}
    {row : Row}
    {options : Options}
    {text : Text}
    (drawn : design.drawingOrder.filter Element.isDrawn ≠ [])
    (rendered : design.render settings clock row options = .ok text) :
    ∃ context width height blocks,
      options.context clock = .ok context ∧
        (scene settings row options context).dots design.width = .ok width ∧
        (scene settings row options context).dots design.height = .ok height ∧
        List.Forall₂
          (fun element block => element.IsBlock (scene settings row options context) block)
          (design.drawingOrder.filter Element.isDrawn) blocks ∧
        text = Text.join ['\n'] (labelLines width height blocks) ∧
        (Text.splitAt '\n' text).length =
          (design.drawingOrder.filter Element.isDrawn).length + 4 +
            ((design.drawingOrder.filter Element.isDrawn).map fun element =>
              element.breaks (scene settings row options context)).sum ∧
        (Text.splitAt '\n' text = labelLines width height blocks ↔
          ∀ element ∈ design.drawingOrder.filter Element.isDrawn,
            ∀ content, element.content (scene settings row options context) = .ok content →
              '\n' ∉ content) := by
  obtain ⟨context, program, valid, made, rfl⟩ := render_eq_ok rendered
  obtain ⟨wide, high, fields⟩ := program_eq_ok made
  rw [← fieldsOf_filter_known, visibleElements_filter_known] at fields
  have printed := forall₂_of_fieldsOf (by simp [Element.isDrawn]) fields
  have each :
      List.Forall₂
        (fun element block => element.IsBlock (scene settings row options context) block)
        (design.drawingOrder.filter Element.isDrawn) (program.fields.map Field.write) := by
    rw [List.forall₂_map_right_iff]
    exact printed.imp fun _ _ => Element.isBlock_write
  have nonempty : program.fields ≠ [] := by
    rw [← List.length_pos_iff, ← printed.length_eq, List.length_pos_iff]
    exact drawn
  have lines : labelLines program.width program.height (program.fields.map Field.write) ≠ [] := by
    simp [labelLines]
  have counts := map_count_eq each
  refine ⟨context, program.width, program.height, _, valid, wide, high, each,
    Program.write_eq_join nonempty, ?_, ?_⟩
  · rw [Program.write_eq_join nonempty, Text.length_splitAt_join _ lines, sum_count_labelLines,
      counts, printed.length_eq]
    simp [labelLines]
  · rw [Program.write_eq_join nonempty, Text.splitAt_join_eq_self_iff lines,
      forall_mem_labelLines, newline_not_mem_blocks_iff each]

theorem render_lines_broken_cell :
    let shown : Element :=
      { Element.ofKind .text with
        x := .ofInt 1
        y := .ofInt 2
        rotation := .null
        binding := some "name".toList
        fontSize := some (.ofInt 12) }
    let framed : Element :=
      { Element.ofKind .rectangle with
        x := .ofInt 3
        y := .ofInt 4
        borderWidth := some (.ofInt 1) }
    let design : Design := ⟨none, .ofInt 50, .ofInt 30, [shown, framed]⟩
    let row : Row := [(.name "name".toList, .text "a\nb".toList)]
    let clock : Moment := .midnight ⟨2026, 3, 15, by decide, by decide, by decide⟩
    let text :=
      "^XA\n^PW400\n^LL240\n^FO8,16^A0N,16,16^FDa\nb^FS\n^FO24,32^GB80,80,8^FS\n^XZ".toList
    design.drawingOrder.filter Element.isDrawn ≠ [] ∧
      design.render .initial clock row (.ofResolution 203) = .ok text ∧
      (Text.splitAt '\n' text).length = 7 ∧
      ∃ width height blocks, text = Text.join ['\n'] (labelLines width height blocks) := by
  intro shown framed design row clock text
  have sorted : design.drawingOrder = [shown, framed] := by
    rw [drawingOrder, List.mergeSort_of_pairwise (by decide)]
  have drawn : design.drawingOrder.filter Element.isDrawn ≠ [] := by
    rw [sorted]
    exact List.cons_ne_nil _ _
  have rendered : design.render .initial clock row (.ofResolution 203) = .ok text := by
    unfold render program
    rw [visibleElements, sorted]
    simp only [design, shown, framed, row, clock, text]
    rfl
  obtain ⟨context, width, height, blocks, -, -, -, -, joined, -, -⟩ := render_lines drawn rendered
  exact ⟨drawn, rendered, by decide, width, height, blocks, joined⟩

/-- A content with a line feed makes a label with one drawn element longer than five lines. -/
theorem length_splitAt_render_broken_text :
    let element : Element :=
      { Element.ofKind .text with
        x := .ofInt 1
        y := .ofInt 2
        rotation := .null
        textContent := some "a\nb".toList
        fontSize := some (.ofInt 12) }
    let design : Design := ⟨none, .ofInt 50, .ofInt 30, [element]⟩
    let clock : Moment := .midnight ⟨2026, 3, 15, by decide, by decide, by decide⟩
    let text := "^XA\n^PW400\n^LL240\n^FO8,16^A0N,16,16^FDa\nb^FS\n^XZ".toList
    design.visibleElements = [element] ∧ element.kind? = some .text ∧
      design.render .initial clock [] (.ofResolution 203) = .ok text ∧
      (Text.splitAt '\n' text).length ≠ 1 + 4 := by
  intro element design clock text
  have only : design.visibleElements = [element] := visibleElements_singleton rfl rfl
  refine ⟨only, rfl, ?_, by decide⟩
  unfold render program
  rw [only]
  simp only [design, element, clock, text]
  rfl

end Design
end LabelPress
