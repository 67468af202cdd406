import LabelPress.Proofs.Label.Frames
import LabelPress.Proofs.Label.Source

/-!
# Assigned columns

What it does to a label that the caller assigns one more column to the elements of an
identifier.  Main statement: the label stays as it is if each of these elements ignores the
column, and every other one shows the text of the column, whatever it is bound to.

An assigned column is looked up in one place, in front of the bound column.  So the elements
on which it has no effect are those that show no column, and those for which it is looked up
in vain.
-/

namespace LabelPress

open Command

/-- The choices of a caller who assigns a column to the elements of an identifier as well. -/
def Options.assign
    (options : Options)
    (id column : Text) : Options :=
  { options with columnMapping := options.columnMapping ++ [(id, column)] }

/-- An element on which an assigned column has no effect. -/
inductive Element.Ignores
    (element : Element)
    (row : Row)
    (column : Text) : Prop where
  /-- The element is not printed. -/
  | invisible (hidden : element.visible = false)
  /-- The kind of the element is not known. -/
  | unknown (unknown : element.kind? = none)
  /-- The element is a shape or an image. -/
  | shape
      {kind : ElementKind}
      (known : element.kind? = some kind)
      (drawn : kind ∈ [ElementKind.rectangle, .line, .circle, .image])
  /-- The element is bound to a template. -/
  | template
      {binding : Text}
      (bound : element.binding = some binding)
      (templated : Template.opening <:+: binding)
  /-- The element is a text that is bound to nothing. -/
  | unbound
      (known : element.kind? = some .text)
      (empty : element.binding = none ∨ element.binding = some [])
  /-- The column has no name. -/
  | unnamed (empty : column = [])
  /-- The column has no value in the row. -/
  | valueless (missing : ¬ row.HasValue column)

namespace Element

variable {element : Element} {row : Row} {mapping other : ColumnMapping} {scene : Scene}
  {id column : Text} {cell : Cell}

/-! ## Assigned columns of elements -/

theorem mappedColumn?_append_of_ne
    (different : element.id ≠ id) :
    element.mappedColumn? (mapping ++ [(id, column)]) = element.mappedColumn? mapping := by
  have absent : List.lookup element.id [(id, column)] = none := by
    simpa [List.lookup_eq_none_iff] using different
  rw [mappedColumn?, mappedColumn?, List.lookup_append, absent, Option.or_none]

theorem mappedColumn?_append
    (same : element.id = id)
    (fresh : mapping.lookup id = none) :
    element.mappedColumn? (mapping ++ [(id, column)]) =
      (some column).filter fun name => !name.isEmpty := by
  have found : List.lookup id [(id, column)] = some column := by simp
  rw [mappedColumn?, same, List.lookup_append, fresh, found, Option.none_or]

theorem mappedText?_eq_none
    (same : element.id = id)
    (fresh : mapping.lookup id = none) :
    element.mappedText? row mapping = .ok none := by
  rw [mappedText?, mappedColumn?, same, fresh]
  rfl

/-- A column that is looked up in vain leaves things as if none were assigned. -/
theorem mappedText?_append_of_missing
    (same : element.id = id)
    (fresh : mapping.lookup id = none)
    (missing : column = [] ∨ ¬ row.HasValue column) :
    element.mappedText? row (mapping ++ [(id, column)]) = .ok none := by
  rw [mappedText?_eq, mappedColumn?_append same fresh]
  rcases missing with rfl | missing
  · rfl
  · have nothing : row.find? column = none := Row.find?_eq_none_iff.2 missing
    cases column with
    | nil => rfl
    | cons c rest =>
        rw [Option.filter_some_pos (by simp), Option.bind_some, nothing]

/-- The assigned column goes before the bound one. -/
theorem sourceCell?_append
    (same : element.id = id)
    (fresh : mapping.lookup id = none)
    (named : column ≠ [])
    (found : row.find? column = some cell) :
    element.sourceCell? row (mapping ++ [(id, column)]) = some cell := by
  rw [sourceCell?, mappedColumn?_append same fresh, Option.filter_some_pos (by simpa using named),
    Option.bind_some, found, Option.some_or]

/-! ## Contents -/

theorem columnText?_congr
    (same : element.mappedText? row mapping = element.mappedText? row other) :
    element.columnText? row mapping = element.columnText? row other := by
  rw [columnText?, columnText?, same]

/-- A content depends on the assigned columns only through the text of its own one. -/
theorem content_congr
    (same : element.mappedText? scene.row scene.mapping = element.mappedText? scene.row other) :
    element.content scene = element.content { scene with mapping := other } := by
  have columns := columnText?_congr same
  simp only [content, displayText, codeText, columns]

/-- The content of an element that ignores a column is the same with and without it. -/
theorem content_append_of_ignores
    (scene : Scene)
    (fresh : scene.mapping.lookup id = none)
    (visible : element.visible = true)
    (ignores : element.id = id → element.Ignores scene.row column) :
    element.content { scene with mapping := scene.mapping ++ [(id, column)] } =
      element.content scene := by
  by_cases same : element.id = id
  · have looked : element.mappedText? scene.row scene.mapping = .ok none :=
      mappedText?_eq_none same fresh
    have inVain (missing : column = [] ∨ ¬ scene.row.HasValue column) :=
      content_congr (looked.trans (mappedText?_append_of_missing same fresh missing).symm)
    cases ignores same with
    | invisible hidden => rw [hidden] at visible; cases visible
    | unknown unknown => rw [content, content, unknown]
    | shape known drawn =>
        rw [content, content, known]
        simp only [List.mem_cons, List.not_mem_nil, or_false] at drawn
        rcases drawn with rfl | rfl | rfl | rfl <;> rfl
    | template bound templated =>
        simp only [content, displayText, codeText, template?_eq_some bound templated]
    | unbound known empty =>
        have nothing : (element.binding.getD []).isEmpty = true := by
          rcases empty with empty | empty <;> rw [empty] <;> rfl
        simp only [content, known, displayText, nothing, if_true]
    | unnamed empty => exact (inVain (.inl empty)).symm
    | valueless missing => exact (inVain (.inr missing)).symm
  · apply Eq.symm
    apply content_congr
    rw [mappedText?, mappedText?, mappedColumn?_append_of_ne same]

/-! ## Elements that heed a column -/

/-- An element that does not ignore a column is of a kind that shows a content. -/
theorem kind?_of_not_ignores
    (heeds : ¬ element.Ignores row column) :
    ∃ kind, element.kind? = some kind ∧ kind ∈ [ElementKind.text, .barcode, .qr] := by
  cases known : element.kind? with
  | none => exact absurd (.unknown known) heeds
  | some kind =>
      refine ⟨kind, rfl, ?_⟩
      cases kind with
      | text | barcode | qr => simp
      | rectangle | line | circle | image => exact absurd (.shape known (by simp)) heeds

theorem template?_of_not_ignores
    (heeds : ¬ element.Ignores row column) :
    element.template? = none := by
  cases bound : element.binding with
  | none =>
      rw [template?, bound]
      rfl
  | some binding =>
      exact template?_eq_none bound fun templated => heeds (.template bound templated)

/-- A text that does not ignore a column is bound to something. -/
theorem binding_ne_nil_of_not_ignores
    (known : element.kind? = some .text)
    (heeds : ¬ element.Ignores row column) :
    element.binding.getD [] ≠ [] := by
  intro empty
  apply heeds
  apply Ignores.unbound known
  cases bound : element.binding with
  | none => exact .inl rfl
  | some binding =>
      rw [bound] at empty
      exact .inr (congrArg some empty)

theorem exists_cell_of_not_ignores
    (heeds : ¬ element.Ignores row column) :
    ∃ cell, row.find? column = some cell := by
  rw [← Option.ne_none_iff_exists']
  intro missing
  exact heeds (.valueless (Row.find?_eq_none_iff.1 missing))

/-- An element that does not ignore a column shows its text if it is the assigned one. -/
theorem content_append_of_not_ignores
    (scene : Scene)
    (same : element.id = id)
    (fresh : scene.mapping.lookup id = none)
    (heeds : ¬ element.Ignores scene.row column) :
    (element.content { scene with mapping := scene.mapping ++ [(id, column)] }).map some =
      scene.row.column? column := by
  have named : column ≠ [] := fun empty => heeds (.unnamed empty)
  obtain ⟨cell, found⟩ := exists_cell_of_not_ignores heeds
  obtain ⟨kind, known, shows⟩ := kind?_of_not_ignores heeds
  have source := sourceCell?_append same fresh named found
  have plain := template?_of_not_ignores heeds
  have shown :
      element.content { scene with mapping := scene.mapping ++ [(id, column)] } =
        cell.toText := by
    simp only [List.mem_cons, List.not_mem_nil, or_false] at shows
    rw [content, known]
    rcases shows with rfl | rfl | rfl
    · exact displayText_of_sourceCell? plain (binding_ne_nil_of_not_ignores known heeds) source
    · exact codeText_of_sourceCell? plain source
    · exact codeText_of_sourceCell? plain source
  rw [shown, Row.column?, found]
  exact (Cell.text?_eq_map_toText (Row.isNull_of_find? found)).symm

/-- The data of an element that heeds an assigned column. -/
theorem dataOf_of_not_ignores
    {frame : List Command}
    (scene : Scene)
    (same : element.id = id)
    (fresh : scene.mapping.lookup id = none)
    (heeds : ¬ element.Ignores scene.row column)
    (framed :
      element.IsFrame { scene with mapping := scene.mapping ++ [(id, column)] } frame) :
    ∃ text, scene.row.column? column = .ok (some text) ∧
      dataOf frame = [element.dataMark ++ escapeData text] := by
  obtain ⟨kind, known, shows⟩ := kind?_of_not_ignores heeds
  have data := framed.payloads
  rw [payloads_eq_map known shows] at data
  obtain ⟨text, shown, data⟩ := map_eq_ok.1 data
  have column := content_append_of_not_ignores scene same fresh heeds
  rw [shown] at column
  exact ⟨text, column.symm, data.symm⟩

end Element

namespace Design

variable {design : Design} {settings : Settings} {clock : Moment} {options : Options}
  {row : Row} {id column : Text}

/-- A label does not change if all elements ignore the column that is assigned to them. -/
theorem render_assign_of_ignores
    (fresh : options.columnMapping.lookup id = none)
    (ignores : ∀ element ∈ design.elements, element.id = id → element.Ignores row column) :
    design.render settings clock row (options.assign id column) =
      design.render settings clock row options := by
  have drawn (context : Context) :
      design.program (scene settings row (options.assign id column) context) =
        design.program (scene settings row options context) := by
    have scale :
        (scene settings row (options.assign id column) context).SameScale
          (scene settings row options context) :=
      ⟨rfl, rfl⟩
    have fields :
        fieldsOf (scene settings row (options.assign id column) context) design.visibleElements =
          fieldsOf (scene settings row options context) design.visibleElements := by
      apply fieldsOf_congr
      intro element member
      have listed : element ∈ design.elements ∧ element.visible = true := by
        simpa [visibleElements, drawingOrder] using member
      have same :
          element.content (scene settings row (options.assign id column) context) =
            element.content (scene settings row options context) :=
        Element.content_append_of_ignores
          (scene settings row options context) fresh listed.2 (ignores element listed.1)
      exact Element.field?_eq_of_content scale same
    rw [program, program, fields]
    rfl
  unfold render
  simp only [drawn]
  rfl

/--
A column that is assigned to the elements of a new identifier leaves the label as it is, or
failing alike, if all of them ignore it.  Every other one of them has the text of the column as
its content, or fails as the column does; and in a label that comes out, read back as its
header, the commands of each visible element and its footer, this text is its data.
-/
theorem render_assign
    (fresh : options.columnMapping.lookup id = none)
    (design : Design)
    (settings : Settings)
    (clock : Moment)
    (row : Row)
    (column : Text) :
    ((∀ element ∈ design.elements, element.id = id → element.Ignores row column) →
        design.render settings clock row (options.assign id column) =
          design.render settings clock row options) ∧
      (∀ (element : Element) (context : Context),
        element.id = id → ¬ element.Ignores row column →
        (element.content (scene settings row (options.assign id column) context)).map some =
          row.column? column) ∧
      ∀ text, design.render settings clock row (options.assign id column) = .ok text →
        ∃ width height frames,
          readAll? text =
              some
                ([Command.bare "XA", Command.ofNumbers "PW" [width],
                    Command.ofNumbers "LL" [height]] ++
                  List.flatten frames ++ [Command.bare "XZ"]) ∧
            List.Forall₂
              (fun element frame =>
                frame.map Command.name = element.commandNames ∧
                  (element.id = id → ¬ element.Ignores row column →
                    ∃ shown, row.column? column = .ok (some shown) ∧
                      dataOf frame = [element.dataMark ++ escapeData shown]))
              design.visibleElements frames := by
  refine ⟨render_assign_of_ignores fresh, ?_, ?_⟩
  · intro element context same heeds
    exact Element.content_append_of_not_ignores
      (scene settings row options context) same fresh heeds
  · intro text rendered
    obtain ⟨context, width, height, found, -, -, -, each, rfl⟩ := exists_fields_of_render rendered
    refine ⟨width, height, found.map Element.fieldCommands, ?_, ?_⟩
    · rw [Program.readAll?_write, Program.commands, flatMap_commands]
    · apply (forall₂_isFrame each).imp
      intro element frame framed
      refine ⟨framed.names, fun same heeds => ?_⟩
      exact Element.dataOf_of_not_ignores
        (scene settings row options context) same fresh heeds framed

theorem render_assign_shared_identifier :
    let shown : Element :=
      { Element.ofKind .text with
        id := "e".toList
        x := .ofInt 1
        y := .ofInt 2
        rotation := .null
        binding := some "name".toList
        fontSize := some (.ofInt 12) }
    let framed : Element :=
      { Element.ofKind .rectangle with
        id := "e".toList
        x := .ofInt 3
        y := .ofInt 4
        borderWidth := some (.ofInt 1)
        binding := some "name".toList }
    let design : Design := ⟨none, .ofInt 50, .ofInt 30, [shown, framed]⟩
    let row : Row := [(.name "name".toList, .text ['x']), (.name "price".toList, .integer 5)]
    let clock : Moment := .midnight ⟨2026, 3, 15, by decide, by decide, by decide⟩
    let options : Options := .ofResolution 203
    let text :=
      ("^XA\n^PW400\n^LL240\n^FO8,16^A0N,16,16^FD5^FS\n" ++
        "^FO24,32^GB80,80,8^FS\n^XZ").toList
    options.columnMapping.lookup "e".toList = none ∧
      design.render .initial clock row (options.assign "e".toList "price".toList) = .ok text ∧
      (∃ width height frames,
        readAll? text =
          some
            ([Command.bare "XA", Command.ofNumbers "PW" [width],
                Command.ofNumbers "LL" [height]] ++
              List.flatten frames ++ [Command.bare "XZ"])) ∧
      (∀ context,
        (shown.content
            (scene .initial row (options.assign "e".toList "price".toList) context)).map some =
          row.column? "price".toList) ∧
      design.render .initial clock row (options.assign "e".toList "cost".toList) =
        design.render .initial clock row options := by
  intro shown framed design row clock options text
  have fresh : options.columnMapping.lookup "e".toList = none := rfl
  have sorted : design.visibleElements = [shown, framed] := by
    rw [visibleElements, drawingOrder, List.mergeSort_of_pairwise (by decide)]
    rfl
  have rendered :
      design.render .initial clock row (options.assign "e".toList "price".toList) = .ok text := by
    unfold render program
    rw [sorted]
    simp only [design, shown, framed, row, clock, text, options]
    rfl
  obtain ⟨-, heeded, labelled⟩ :=
    render_assign fresh design .initial clock row "price".toList
  obtain ⟨unchanged, -, -⟩ := render_assign fresh design .initial clock row "cost".toList
  have heeds : ¬ shown.Ignores row "price".toList := by
    have known : shown.kind? = some .text := rfl
    intro ignores
    cases ignores with
    | invisible hidden => exact absurd hidden (by decide)
    | unknown unknown => rw [known] at unknown; cases unknown
    | shape other drawn =>
        rw [known] at other
        cases other
        exact absurd drawn (by decide)
    | template bound templated =>
        cases bound
        exact absurd templated (by decide)
    | unbound text empty => exact absurd empty (by decide)
    | unnamed empty => exact absurd empty (by decide)
    | valueless missing =>
        rw [← Row.find?_eq_none_iff] at missing
        exact absurd missing (by decide)
  have missing : ¬ row.HasValue "cost".toList := by
    rw [← Row.find?_eq_none_iff]
    decide
  obtain ⟨width, height, frames, read, -⟩ := labelled text rendered
  refine ⟨fresh, rendered, ⟨width, height, frames, read⟩, ?_, ?_⟩
  · exact fun context => heeded shown context rfl heeds
  · exact unchanged fun element _ _ => .valueless missing

end Design
end LabelPress
