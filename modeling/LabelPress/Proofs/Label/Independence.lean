import LabelPress.Proofs.Label.Batch
import LabelPress.Proofs.Label.Rendering
import LabelPress.Proofs.Row.Record
import LabelPress.Proofs.Template.View

/-!
# What labels do not depend on

A label is drawn from what its scene shows: the texts of the columns, the place of the
row, the date, the resolution, the assigned columns and the settings.  Main statements:
a row counts only as a record of its cells, whatever their order and the case of their
names; neither the time of day nor the size of the batch shows; and rows behind the rows of
a batch leave the labels before them as they are.

All compare two runs.  They meet in one lemma for each function on the way from the
columns to the label, which needs the two scenes to look alike and no more.
-/

namespace LabelPress

/-- Two scenes that show every element the same. -/
structure Scene.Alike (scene other : Scene) : Prop extends scene.SameScale other where
  mapping : scene.mapping = other.mapping
  view : SameView scene.row scene.context other.row other.context

namespace Options

/--
Choices for labels, each with a clock, that differ at most in the place and the size of the
batch and in the time of one day.
-/
structure SameDay
    (options : Options)
    (clock : Moment)
    (other : Options)
    (otherClock : Moment) : Prop where
  /-- The resolutions are the same. -/
  dpi : options.dpi = other.dpi
  /-- The same columns are assigned. -/
  columnMapping : options.columnMapping = other.columnMapping
  /-- The labels are rendered on the same day. -/
  date : (options.now.getD clock).date = (other.now.getD otherClock).date

variable {options other : Options} {clock otherClock : Moment}

theorem SameDay.forRow
    (same : options.SameDay clock other otherClock)
    (rowIndex batchSize otherSize : Int) :
    (options.forRow rowIndex batchSize).SameDay clock (other.forRow rowIndex otherSize)
      otherClock :=
  ⟨same.dpi, same.columnMapping, same.date⟩

theorem SameDay.atMoment
    (same : options.SameDay clock other otherClock) :
    (options.atMoment clock).SameDay clock (other.atMoment otherClock) otherClock :=
  ⟨same.dpi, same.columnMapping, same.date⟩

/-- In a batch that has a size, only the place can be out of range. -/
theorem context_eq_of_batchSize
    (clock : Moment)
    (positive : 1 ≤ options.batchSize) :
    options.context clock =
      (bounded "row_index" 0 options.rowIndex).map fun place =>
        ⟨place, options.batchSize.toNat, options.now.getD clock⟩ := by
  have sized : bounded "batch_size" 1 options.batchSize = .ok options.batchSize.toNat :=
    bounded_eq_ok.2 ⟨positive, rfl⟩
  rw [context, sized]
  cases bounded "row_index" 0 options.rowIndex <;> rfl

end Options

namespace Element

variable {element : Element} {scene other : Scene}

/-! ## Content -/

section
variable {row otherRow : Row} {context otherContext : Context}
  (same : SameView row context otherRow otherContext)
include same

theorem columnText?_eq_of_sameView (mapping : ColumnMapping) :
    element.columnText? row mapping = element.columnText? otherRow mapping := by
  simp only [columnText?, mappedText?, boundText?, same.columns]

theorem displayText_eq_of_sameView (mapping : ColumnMapping) :
    element.displayText row context mapping =
      element.displayText otherRow otherContext mapping := by
  simp only [displayText, same.evaluate_eq, columnText?_eq_of_sameView same]

theorem codeText_eq_of_sameView (mapping : ColumnMapping) :
    element.codeText row context mapping = element.codeText otherRow otherContext mapping := by
  simp only [codeText, same.evaluate_eq, columnText?_eq_of_sameView same]

end

/-! ## Fields -/

theorem content_eq_of_alike
    (alike : scene.Alike other) :
    element.content scene = element.content other := by
  simp only [content, alike.mapping, displayText_eq_of_sameView alike.view,
    codeText_eq_of_sameView alike.view]

/-- An element has the same field in scenes that look alike. -/
theorem field?_eq_of_alike
    (alike : scene.Alike other) :
    element.field? scene = element.field? other :=
  field?_eq_of_content alike.toSameScale (content_eq_of_alike alike)

end Element

namespace Design

variable {design : Design} {settings : Settings} {options otherOptions : Options}

/-! ## Labels -/

theorem program_eq_of_alike
    {scene other : Scene}
    (alike : scene.Alike other) :
    design.program scene = design.program other := by
  have fields : fieldsOf scene design.visibleElements = fieldsOf other design.visibleElements :=
    fieldsOf_congr fun _ _ => Element.field?_eq_of_alike alike
  simp only [program, alike.dots_eq, fields]

/-- Labels whose scenes look alike are the same, or fail with the same fault. -/
theorem render_eq_of_alike
    {clock otherClock : Moment}
    {row otherRow : Row}
    {context otherContext : Context}
    (valid : options.context clock = .ok context)
    (otherValid : otherOptions.context otherClock = .ok otherContext)
    (alike :
      (scene settings row options context).Alike
        (scene settings otherRow otherOptions otherContext)) :
    design.render settings clock row options =
      design.render settings otherClock otherRow otherOptions := by
  unfold render
  rw [valid, otherValid]
  dsimp only
  rw [program_eq_of_alike alike]

/-! ## Rows as records -/

/--
A label with a moment of its own stays the same, or fails alike, when the cells of its row
change places, their names change case, and null cells and cells without a name come and
go.  No two of the names that can be found may differ only in case.
-/
theorem render_eq_of_rearranged
    {now : Moment}
    {row other : Row}
    (fixed : options.now = some now)
    (distinct : row.HasDistinctNames)
    (changes : Relation.ReflTransGen Row.Rearranged row other)
    (clock otherClock : Moment) :
    design.render settings clock row options =
      design.render settings otherClock other options := by
  rw [render_of_now fixed row otherClock]
  cases valid : options.context otherClock with
  | error issues =>
      unfold render
      rw [valid]
  | ok context =>
      apply render_eq_of_alike valid valid
      exact
        { dotsPerMillimetre := rfl
          settings := rfl
          mapping := rfl
          view := ⟨Row.column?_eq_of_rearranged distinct changes, rfl, rfl⟩ }

theorem render_eq_of_rearranged_other_case :
    let element : Element :=
      { Element.ofKind .text with
        x := .ofInt 1
        y := .ofInt 2
        rotation := .null
        binding := some "Qty".toList
        fontSize := some (.ofInt 12) }
    let design : Design := ⟨none, .ofInt 50, .ofInt 30, [element]⟩
    let row : Row := [(.name "name".toList, .text "x".toList), (.name "Qty".toList, .integer 5)]
    let other : Row :=
      [(.number 1, .text "y".toList), (.name "QTY".toList, .integer 5),
        (.name "name".toList, .text "x".toList), (.name "qty".toList, .null)]
    let now : Moment := .midnight ⟨2026, 3, 15, by decide, by decide, by decide⟩
    let options : Options := { Options.ofResolution 203 with now := some now }
    row.HasDistinctNames ∧ Relation.ReflTransGen Row.Rearranged row other ∧
      design.render .initial now row options =
        .ok "^XA\n^PW400\n^LL240\n^FO8,16^A0N,16,16^FD5^FS\n^XZ".toList ∧
      ∀ clock,
        design.render .initial now row options = design.render .initial clock other options := by
  intro element design row other now options
  have distinct : row.HasDistinctNames := by decide
  have changes : Relation.ReflTransGen Row.Rearranged row other := by
    have sameName : Text.lower "Qty".toList = Text.lower "QTY".toList := by decide
    have null : Row.Unseen (.name "qty".toList, .null) := Or.inl rfl
    have unnamed : Row.Unseen (.number 1, .text "y".toList) := Or.inr ⟨1, rfl⟩
    refine .head (.reorder (.swap _ _ _)) ?_
    refine .head (.recase [] _ _ sameName) ?_
    refine .head (.add [] _ unnamed) ?_
    exact .single (.add [_, _, _] [] null)
  refine ⟨distinct, changes, ?_, ?_⟩
  · simp only [render, program]
    rw [@visibleElements_singleton design element rfl rfl]
    simp only [design, element, row, now, options]
    rfl
  · exact render_eq_of_rearranged rfl distinct changes now

/-! ## One day -/

/-- Labels of one place and day are the same at all times and in batches of all sizes. -/
theorem render_eq_of_sameDay
    {clock otherClock : Moment}
    (same : options.SameDay clock otherOptions otherClock)
    (samePlace : options.rowIndex = otherOptions.rowIndex)
    (positive : 1 ≤ options.batchSize)
    (otherPositive : 1 ≤ otherOptions.batchSize)
    (row : Row) :
    design.render settings clock row options =
      design.render settings otherClock row otherOptions := by
  have context := Options.context_eq_of_batchSize clock positive
  have otherContext := Options.context_eq_of_batchSize otherClock otherPositive
  rw [samePlace] at context
  cases placed : Options.bounded "row_index" 0 otherOptions.rowIndex with
  | error issues =>
      rw [placed] at context otherContext
      rw [render, render, context, otherContext]
      rfl
  | ok place =>
      rw [placed] at context otherContext
      apply render_eq_of_alike context otherContext
      exact
        { dotsPerMillimetre := by simp only [scene, same.dpi]
          settings := rfl
          mapping := same.columnMapping
          view := ⟨fun _ => rfl, rfl, same.date⟩ }

/-- So are the labels of a list of rows. -/
theorem renderFrom_eq_of_sameDay
    {clock otherClock : Moment}
    {batchSize otherSize : Nat}
    (same : options.SameDay clock otherOptions otherClock)
    (positive : 1 ≤ batchSize)
    (otherPositive : 1 ≤ otherSize)
    (first : Nat)
    (rows : List Row) :
    renderFrom design settings clock options batchSize first rows =
      renderFrom design settings otherClock otherOptions otherSize first rows := by
  induction rows generalizing first with
  | nil => rfl
  | cons row rows inductionHypothesis =>
      have here :
          design.render settings clock row (options.forRow first batchSize) =
            design.render settings otherClock row (otherOptions.forRow first otherSize) :=
        render_eq_of_sameDay (same.forRow first batchSize otherSize) rfl
          (Int.ofNat_le.2 positive) (Int.ofNat_le.2 otherPositive) row
      rw [renderFrom, renderFrom, here, inductionHypothesis]

/-- So are whole batches, whatever place and size their choices give. -/
theorem renderBatch_eq_of_sameDay
    {clock otherClock : Moment}
    (same : options.SameDay clock otherOptions otherClock)
    (rows : List Row) :
    design.renderBatch settings clock rows options =
      design.renderBatch settings otherClock rows otherOptions := by
  have atLeastOne : 1 ≤ max rows.length 1 := Nat.le_max_right _ _
  rw [renderBatch, renderBatch, renderFrom_eq_of_sameDay same.atMoment atLeastOne atLeastOne]

/--
Of its context a template shows the place of the row and the date, and neither the time of
day, nor the offset, nor the size of the batch.  So the labels of one day, alone and in
batches, do not depend on when in the day they are rendered.
-/
theorem evaluate_render_renderBatch_of_sameDay :
    (∀ (context other : Context), context.rowIndex = other.rowIndex →
        context.now.date = other.now.date →
          ∀ row template,
            Template.evaluate row context template = Template.evaluate row other template) ∧
      ∀ (options otherOptions : Options) (clock otherClock : Moment),
        options.SameDay clock otherOptions otherClock →
          ∀ (design : Design) (settings : Settings),
            (options.rowIndex = otherOptions.rowIndex → 1 ≤ options.batchSize →
                1 ≤ otherOptions.batchSize → ∀ row,
                  design.render settings clock row options =
                    design.render settings otherClock row otherOptions) ∧
              ∀ rows,
                design.renderBatch settings clock rows options =
                  design.renderBatch settings otherClock rows otherOptions := by
  constructor
  · intro context other samePlace sameDate row template
    have same : SameView row context row other := ⟨fun _ => rfl, samePlace, sameDate⟩
    exact same.evaluate_eq template
  · intro options otherOptions clock otherClock same design settings
    refine ⟨?_, renderBatch_eq_of_sameDay same⟩
    intro samePlace positive otherPositive row
    exact render_eq_of_sameDay same samePlace positive otherPositive row

theorem evaluate_render_renderBatch_of_sameDay_midnight :
    let early : Moment := .midnight ⟨2026, 3, 15, by decide, by decide, by decide⟩
    let late : Moment := { early with hour := 23, minute := 59, offset := some (-18000) }
    let template := "\x7b\x7bAHORA()\x7d\x7d \x7b\x7bCONTADOR(1, 1, 3)\x7d\x7d".toList
    let options : Options := { Options.ofResolution 203 with rowIndex := 2, batchSize := 3 }
    let other : Options := { options with batchSize := 9, now := some late }
    early ≠ late ∧
      (∀ row, Template.evaluate row ⟨2, 3, early⟩ template =
        Template.evaluate row ⟨2, 9, late⟩ template) ∧
      ∀ (design : Design) row rows,
        design.render .initial early row options = design.render .initial early row other ∧
          design.renderBatch .initial early rows options =
            design.renderBatch .initial early rows other := by
  intro early late template options other
  obtain ⟨evaluated, rendered⟩ := evaluate_render_renderBatch_of_sameDay
  have same : options.SameDay early other early := ⟨rfl, rfl, rfl⟩
  refine ⟨by decide, fun row => ?_, fun design row rows => ?_⟩
  · exact evaluated ⟨2, 3, early⟩ ⟨2, 9, late⟩ rfl rfl row template
  · obtain ⟨label, batch⟩ := rendered options other early early same design .initial
    exact ⟨label rfl (by decide) (by decide) row, batch rows⟩

/-! ## Growing batches -/

/-- The labels of a list of rows depend neither on the clock nor on the batch. -/
theorem renderFrom_eq_of_batchSize
    {now moment : Moment}
    {batchSize otherSize : Nat}
    (fixed : options.now = some now)
    (sameDate : moment.date = now.date)
    (positive : 1 ≤ batchSize)
    (otherPositive : 1 ≤ otherSize)
    (clock otherClock : Moment)
    (first : Nat)
    (rows : List Row) :
    renderFrom design settings clock options batchSize first rows =
      renderFrom design settings otherClock { options with now := some moment }
        otherSize first rows := by
  have same : options.SameDay clock { options with now := some moment } otherClock := by
    refine ⟨rfl, rfl, ?_⟩
    rw [fixed]
    exact sameDate.symm
  exact renderFrom_eq_of_sameDay same positive otherPositive first rows

/-- The labels of a list of rows in two parts. -/
theorem renderFrom_append
    {clock : Moment}
    {batchSize first : Nat}
    {rows later : List Row}
    {labels : List Text}
    (rendered :
      renderFrom design settings clock options batchSize first (rows ++ later) = .ok labels) :
    ∃ front behind,
      renderFrom design settings clock options batchSize first rows = .ok front ∧
        renderFrom design settings clock options batchSize (first + rows.length) later =
          .ok behind ∧
        labels = front ++ behind := by
  induction rows generalizing first labels with
  | nil => exact ⟨[], labels, rfl, rendered, rfl⟩
  | cons row rows inductionHypothesis =>
      obtain ⟨label, here, rendered⟩ := bind_eq_ok.1 rendered
      obtain ⟨others, made, rendered⟩ := bind_eq_ok.1 rendered
      cases rendered
      obtain ⟨front, behind, before, after, rfl⟩ := inductionHypothesis made
      have shift : first + 1 + rows.length = first + (row :: rows).length := by
        rw [List.length_cons]
        omega
      rw [shift] at after
      refine ⟨label :: front, behind, ?_, after, rfl⟩
      exact bind_eq_ok.2 ⟨label, here, bind_eq_ok.2 ⟨front, before, rfl⟩⟩

/--
A batch with a moment of its own begins with the batch of its first rows, whatever rows
follow them.  The labels behind are those of the other rows, each rendered alone at its
place: in a batch of any size, at any clock and any moment of the same day.
-/
theorem renderBatch_append
    {clock now moment : Moment}
    {rows later : List Row}
    {text : Text}
    {batchSize : Int}
    (fixed : options.now = some now)
    (nonempty : rows ≠ [])
    (laterNonempty : later ≠ [])
    (rendered : design.renderBatch settings clock (rows ++ later) options = .ok text)
    (positive : 1 ≤ batchSize)
    (sameDate : moment.date = now.date)
    (otherClock : Moment) :
    ∃ front behind,
      design.renderBatch settings otherClock rows options = .ok front ∧
        behind.map .ok =
          (later.mapIdx fun place row =>
            design.render settings otherClock row
              { options.forRow (rows.length + place : Nat) batchSize with now := some moment }) ∧
        text = front ++ ['\n'] ++ Text.join ['\n'] behind := by
  have own : ({ options with now := some now } : Options) = options := by
    rw [← fixed]
  have atLeastOne (size : Nat) : 1 ≤ max size 1 := Nat.le_max_right size 1
  obtain ⟨labels, made, joined⟩ := bind_eq_ok.1 rendered
  cases joined
  rw [Options.atMoment_of_now fixed clock] at made
  obtain ⟨front, behind, before, after, rfl⟩ := renderFrom_append made
  -- Both parts were made with the size of the whole batch.
  rw [renderFrom_eq_of_batchSize fixed rfl (atLeastOne _) (atLeastOne rows.length)
    clock otherClock, own] at before
  obtain ⟨size, rfl⟩ := Int.eq_ofNat_of_zero_le (Int.le_trans (by decide) positive)
  rw [renderFrom_eq_of_batchSize fixed sameDate (atLeastOne _) (Int.ofNat_le.1 positive)
    clock otherClock] at after
  have frontCount := congrArg List.length (renderFrom_eq_ok before)
  have behindEach := renderFrom_eq_ok after
  have behindCount := congrArg List.length behindEach
  rw [List.length_map, List.length_mapIdx] at frontCount behindCount
  refine ⟨Text.join ['\n'] front, behind, ?_, ?_, ?_⟩
  · rw [renderBatch, Options.atMoment_of_now fixed otherClock, before]
    rfl
  · rw [behindEach, Nat.zero_add]
    rfl
  · apply Text.join_append
    · rwa [Ne, ← List.length_eq_zero_iff, frontCount, List.length_eq_zero_iff]
    · rwa [Ne, ← List.length_eq_zero_iff, behindCount, List.length_eq_zero_iff]

theorem renderBatch_append_later_day_time :
    let element : Element :=
      { Element.ofKind .text with
        x := .ofInt 1
        y := .ofInt 2
        rotation := .null
        binding := some "name".toList
        fontSize := some (.ofInt 12) }
    let design : Design := ⟨none, .ofInt 50, .ofInt 30, [element]⟩
    let rows : List Row := [[(.name "name".toList, .text "x".toList)]]
    let later : List Row := [[(.name "NAME".toList, .integer 5)]]
    let now : Moment := .midnight ⟨2026, 3, 15, by decide, by decide, by decide⟩
    let moment : Moment := { now with hour := 9 }
    let options : Options := { Options.ofResolution 203 with now := some now }
    let text :=
      ("^XA\n^PW400\n^LL240\n^FO8,16^A0N,16,16^FDx^FS\n^XZ\n" ++
        "^XA\n^PW400\n^LL240\n^FO8,16^A0N,16,16^FD5^FS\n^XZ").toList
    design.renderBatch .initial now (rows ++ later) options = .ok text ∧
      ∃ front behind,
        design.renderBatch .initial moment rows options = .ok front ∧
          behind.map .ok =
            (later.mapIdx fun place row =>
              design.render .initial moment row
                { options.forRow (rows.length + place : Nat) 7 with now := some moment }) ∧
          text = front ++ ['\n'] ++ Text.join ['\n'] behind := by
  intro element design rows later now moment options text
  have rendered : design.renderBatch .initial now (rows ++ later) options = .ok text := by
    simp only [renderBatch, rows, later, List.cons_append, List.nil_append, renderFrom, render,
      program]
    rw [@visibleElements_singleton design element rfl rfl]
    simp only [design, element, now, text, options]
    rfl
  have fixed : options.now = some now := rfl
  have sameDate : moment.date = now.date := rfl
  exact ⟨rendered, renderBatch_append fixed (List.cons_ne_nil _ _) (List.cons_ne_nil _ _)
    rendered (by decide) sameDate moment⟩

end Design
end LabelPress
