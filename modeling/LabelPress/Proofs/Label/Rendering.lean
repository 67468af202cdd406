import LabelPress.Proofs.Label.Content
import LabelPress.Proofs.Label.Field
import LabelPress.Proofs.Label.Pool
import LabelPress.Proofs.Print.Dots
import LabelPress.Proofs.Print.Fit
import LabelPress.Proofs.Schema.Check
import LabelPress.Proofs.Schema.Defaults

/-!
# Labels that can be rendered

When rendering gives a text at all.  Main statement: exactly if every length that a
visible element uses can be measured, the pixels of a millimetre are not zero where text
is printed, no rotation and no height of a shrinking text lies beyond the doubles, and no
column that is shown holds an integer of too many digits.  A batch is rendered exactly if
all of its labels are, once its resolution can be written to the log.
-/

namespace LabelPress

namespace Scene

/-- A length has a number of dots; an infinite one, of magnitude zero, always has. -/
def Measures
    (scene : Scene)
    (length : Double) : Prop :=
  length.magnitude * scene.dotsPerMillimetre < Double.overflowBound

/-- The dots that a length covers in a scene. -/
def dotCount
    (scene : Scene)
    (length : Double) : Int :=
  LabelPress.dotCount length scene.dotsPerMillimetre

variable {scene : Scene} {length : Double}

theorem succeeds_dots
    (density : IsDensity scene.dotsPerMillimetre) :
    Succeeds (scene.dots length) ↔ scene.Measures length :=
  LabelPress.succeeds_dots density

theorem dots_eq_ok
    (density : IsDensity scene.dotsPerMillimetre)
    {count : Int} :
    scene.dots length = .ok count ↔ scene.Measures length ∧ scene.dotCount length = count := by
  constructor
  · intro measured
    have measures := (succeeds_dots density).1 ⟨count, measured⟩
    have counted := LabelPress.dots_eq_ok density measures
    rw [dots, counted] at measured
    exact ⟨measures, Except.ok.inj measured⟩
  · rintro ⟨measures, rfl⟩
    exact LabelPress.dots_eq_ok density measures

/-- A length in pixels, in millimetres. -/
def fromPixels
    (scene : Scene)
    (pixels : Double) : Double :=
  pixels.div scene.settings.pixelsPerMillimetre

theorem pixelDots_eq_ok
    (density : IsDensity scene.dotsPerMillimetre)
    {count : Int} :
    scene.pixelDots length = .ok count ↔
      scene.settings.pixelsPerMillimetre.isZero = false ∧
        scene.Measures (scene.fromPixels length) ∧
        scene.dotCount (scene.fromPixels length) = count := by
  rw [pixelDots, bind_eq_ok, Double.div?]
  cases scene.settings.pixelsPerMillimetre.isZero with
  | true => simp
  | false =>
      simp only [Bool.false_eq_true, if_false, Except.ok.injEq, exists_eq_left', true_and]
      exact dots_eq_ok density

end Scene

namespace Element

/-- The size of the font of a text, in millimetres. -/
def fontLength
    (element : Element)
    (scene : Scene) : Double :=
  scene.fromPixels (nonzeroOr element.fontSize scene.settings.defaultFontSize)

/-- The least size of a shrinking font, in millimetres. -/
def leastFontLength
    (element : Element)
    (scene : Scene) : Double :=
  scene.fromPixels (nonzeroOr element.minFontSize defaultMinFontSize)

/-- The rotation is no integer beyond the doubles. -/
def Turns (element : Element) : Prop :=
  ∀ degrees, element.rotation = .integer degrees →
    (degrees.natAbs : ℚ) < Double.overflowBound

/-- The column that a code shows can be written. -/
def CodeWritable
    (element : Element)
    (scene : Scene) : Prop :=
  element.template? = none →
    ∀ cell, element.sourceCell? scene.row scene.mapping = some cell → cell.Writable

/-- The column that a text shows can be written; only a bound text shows one. -/
def DisplayWritable
    (element : Element)
    (scene : Scene) : Prop :=
  element.binding.getD [] ≠ [] → element.CodeWritable scene

/-- A text can be fitted into its box. -/
structure Shrinks
    (element : Element)
    (scene : Scene)
    (text : Text) : Prop where
  boxWidth : scene.Measures (element.width.getD defaultBoxWidth)
  boxHeight : scene.Measures (element.height.getD defaultBoxHeight)
  leastFont : scene.Measures (element.leastFontLength scene)
  trial :
    max (scene.dotCount (element.leastFontLength scene)) 1 ≤
        scene.dotCount (element.fontLength scene) →
      Fit.Tries text.length (scene.dotCount (element.width.getD defaultBoxWidth))
        (scene.dotCount (element.fontLength scene))

/-- A text can be printed. -/
structure TextPrintable
    (element : Element)
    (scene : Scene) : Prop where
  content : element.DisplayWritable scene
  scale : scene.settings.pixelsPerMillimetre.isZero = false
  font : scene.Measures (element.fontLength scene)
  shrinks : element.autoFit = some true →
    ∀ text, element.displayText scene.row scene.context scene.mapping = .ok text →
      text ≠ [] → element.Shrinks scene text
  turns : element.Turns

/-- The body of an element of a kind can be printed. -/
def BodyPrintable
    (element : Element)
    (scene : Scene) : ElementKind → Prop
  | .text => element.TextPrintable scene
  | .barcode =>
      element.CodeWritable scene ∧ scene.Measures (element.height.getD defaultSize) ∧
        element.Turns
  | .qr => element.CodeWritable scene ∧ scene.Measures (element.width.getD defaultSize)
  | .rectangle =>
      scene.Measures (element.width.getD defaultSize) ∧
        scene.Measures (element.height.getD defaultSize) ∧
        scene.Measures (element.borderWidth.getD defaultBorder)
  | .line =>
      scene.Measures (element.width.getD defaultSize) ∧
        scene.Measures (element.borderWidth.getD (element.height.getD defaultBorder))
  | .circle =>
      scene.Measures
          (Double.least (element.width.getD defaultSize) (element.height.getD defaultSize)) ∧
        scene.Measures (element.borderWidth.getD defaultBorder)
  | .image =>
      scene.Measures (element.width.getD defaultSize) ∧
        scene.Measures (element.height.getD defaultSize)

/-- An element can be printed; one of an unknown kind is skipped. -/
def Printable
    (element : Element)
    (scene : Scene) : Prop :=
  ∀ kind, element.kind? = some kind →
    scene.Measures element.x ∧ scene.Measures element.y ∧ element.BodyPrintable scene kind

variable {element : Element} {scene : Scene}

theorem succeeds_orientation :
    Succeeds element.orientation ↔ element.Turns := by
  rw [orientation, succeeds_ofRotation, Turns]
  cases element.rotation <;> simp [Document.number?]

theorem length_escapeData (text : Text) :
    (escapeData text).length = text.length := by
  simp [escapeData]

theorem succeeds_fittedFontDots
    (density : IsDensity scene.dotsPerMillimetre)
    (scale : scene.settings.pixelsPerMillimetre.isZero = false)
    (text : Text) :
    Succeeds
        (element.fittedFontDots scene (escapeData text)
          (scene.dotCount (element.fontLength scene))) ↔
      element.Shrinks scene text := by
  constructor
  · intro succeeds
    obtain ⟨boxWidth, wide, succeeds⟩ := Succeeds.bind_iff.1 succeeds
    obtain ⟨boxHeight, high, succeeds⟩ := Succeeds.bind_iff.1 succeeds
    obtain ⟨least, low, succeeds⟩ := Succeeds.bind_iff.1 succeeds
    obtain ⟨measuredWidth, rfl⟩ := (Scene.dots_eq_ok density).1 wide
    obtain ⟨measuredHeight, rfl⟩ := (Scene.dots_eq_ok density).1 high
    obtain ⟨-, measuredLeast, rfl⟩ := (Scene.pixelDots_eq_ok density).1 low
    rw [Fit.succeeds_fontHeight (le_max_right _ _), length_escapeData] at succeeds
    exact ⟨measuredWidth, measuredHeight, measuredLeast, succeeds⟩
  · rintro ⟨wide, high, low, trial⟩
    apply Succeeds.bind_iff.2
    refine ⟨_, (Scene.dots_eq_ok density).2 ⟨wide, rfl⟩, ?_⟩
    apply Succeeds.bind_iff.2
    refine ⟨_, (Scene.dots_eq_ok density).2 ⟨high, rfl⟩, ?_⟩
    apply Succeeds.bind_iff.2
    refine ⟨_, (Scene.pixelDots_eq_ok density).2 ⟨scale, low, rfl⟩, ?_⟩
    rw [Fit.succeeds_fontHeight (le_max_right _ _), length_escapeData]
    exact trial

theorem succeeds_textHeight
    (density : IsDensity scene.dotsPerMillimetre)
    (scale : scene.settings.pixelsPerMillimetre.isZero = false)
    (text : Text) :
    Succeeds
        (element.textHeight scene (escapeData text)
          (scene.dotCount (element.fontLength scene))) ↔
      (element.autoFit = some true → text ≠ [] → element.Shrinks scene text) := by
  have nonempty : escapeData text ≠ [] ↔ text ≠ [] := by simp [escapeData]
  unfold textHeight
  split
  · rename_i shrinks
    rw [succeeds_fittedFontDots density scale]
    constructor
    · intro fits _ _
      exact fits
    · intro fits
      exact fits shrinks.1 (nonempty.1 shrinks.2)
  · rename_i fixed
    apply iff_of_true (.ok _)
    intro shrinks present
    exact absurd ⟨shrinks, nonempty.2 present⟩ fixed

theorem succeeds_textBody
    (density : IsDensity scene.dotsPerMillimetre) :
    Succeeds (element.textBody scene) ↔ element.TextPrintable scene := by
  have content :
      Succeeds (element.displayText scene.row scene.context scene.mapping) ↔
        element.DisplayWritable scene := by
    rw [succeeds_displayText]
    constructor
    · intro each bound free
      exact each free bound
    · intro each free bound
      exact each bound free
  rw [textBody_eq]
  constructor
  · intro succeeds
    obtain ⟨text, shown, succeeds⟩ := Succeeds.bind_iff.1 succeeds
    obtain ⟨wanted, measured, succeeds⟩ := Succeeds.bind_iff.1 succeeds
    obtain ⟨height, fitted, succeeds⟩ := Succeeds.bind_iff.1 succeeds
    obtain ⟨orientation, turned, -⟩ := Succeeds.bind_iff.1 succeeds
    obtain ⟨scale, font, rfl⟩ := (Scene.pixelDots_eq_ok density).1 measured
    refine ⟨content.1 ⟨text, shown⟩, scale, font, ?_, succeeds_orientation.1 ⟨_, turned⟩⟩
    intro shrinks other same present
    rw [shown] at same
    cases same
    exact (succeeds_textHeight density scale text).1 ⟨height, fitted⟩ shrinks present
  · rintro ⟨writable, scale, font, shrinks, turns⟩
    obtain ⟨text, shown⟩ := content.2 writable
    obtain ⟨orientation, turned⟩ := succeeds_orientation.2 turns
    have wanted := (Scene.pixelDots_eq_ok density).2 ⟨scale, font, rfl⟩
    obtain ⟨height, fitted⟩ := (succeeds_textHeight density scale text).2
      fun fits present => shrinks fits text shown present
    apply Succeeds.bind_iff.2
    refine ⟨text, shown, ?_⟩
    apply Succeeds.bind_iff.2
    refine ⟨_, wanted, ?_⟩
    apply Succeeds.bind_iff.2
    refine ⟨height, fitted, ?_⟩
    apply Succeeds.bind_iff.2
    exact ⟨orientation, turned, .pure _⟩

theorem succeeds_borderDots
    (density : IsDensity scene.dotsPerMillimetre) :
    Succeeds (element.borderDots scene) ↔
      scene.Measures (element.borderWidth.getD defaultBorder) := by
  rw [borderDots, Succeeds.bind_pure_iff, Scene.succeeds_dots density]

/-- The body of an element comes out exactly if its measures and its content do. -/
theorem succeeds_body
    (density : IsDensity scene.dotsPerMillimetre)
    (kind : ElementKind) :
    Succeeds (element.body kind scene) ↔ element.BodyPrintable scene kind := by
  cases kind with
  | text => exact succeeds_textBody density
  | barcode =>
      unfold body barcodeBody BodyPrintable
      rw [Succeeds.bind_iff_and fun _ => Succeeds.bind_iff_and fun _ => Succeeds.bind_pure_iff,
        succeeds_codeText, Scene.succeeds_dots density, succeeds_orientation]
      rfl
  | qr =>
      unfold body qrBody BodyPrintable
      rw [Succeeds.bind_iff_and fun _ => Succeeds.bind_pure_iff, succeeds_codeText,
        Scene.succeeds_dots density]
      rfl
  | rectangle =>
      unfold body rectangleBody BodyPrintable
      rw [Succeeds.bind_iff_and fun _ => Succeeds.bind_iff_and fun _ => Succeeds.bind_pure_iff,
        Scene.succeeds_dots density, Scene.succeeds_dots density, succeeds_borderDots density]
  | line =>
      unfold body lineBody BodyPrintable
      rw [Succeeds.bind_iff_and fun _ => Succeeds.bind_pure_iff, Scene.succeeds_dots density,
        Scene.succeeds_dots density]
  | circle =>
      unfold body circleBody BodyPrintable
      rw [Succeeds.bind_iff_and fun _ => Succeeds.bind_pure_iff, Scene.succeeds_dots density,
        succeeds_borderDots density]
  | image =>
      unfold body imageBody BodyPrintable
      rw [Succeeds.bind_iff_and fun _ => Succeeds.bind_pure_iff, Scene.succeeds_dots density,
        Scene.succeeds_dots density]

theorem succeeds_field?
    (density : IsDensity scene.dotsPerMillimetre) :
    Succeeds (element.field? scene) ↔ element.Printable scene := by
  unfold field? Printable
  cases element.kind? with
  | none => simp
  | some kind =>
      simp only [Option.some.injEq, forall_eq']
      rw [Succeeds.bind_iff_and fun _ => Succeeds.bind_iff_and fun _ => Succeeds.bind_pure_iff,
        Scene.succeeds_dots density, Scene.succeeds_dots density, succeeds_body density]

end Element

namespace Design

/-- A label can be printed. -/
structure Printable
    (design : Design)
    (scene : Scene) : Prop where
  width : scene.Measures design.width
  height : scene.Measures design.height
  elements : ∀ element ∈ design.elements, element.visible = true → element.Printable scene

theorem succeeds_fieldsOf
    {scene : Scene}
    (density : IsDensity scene.dotsPerMillimetre)
    (elements : List Element) :
    Succeeds (fieldsOf scene elements) ↔ ∀ element ∈ elements, element.Printable scene := by
  induction elements with
  | nil => simp [fieldsOf]
  | cons element others inductionHypothesis =>
      rw [fieldsOf, Succeeds.bind_iff_and fun _ => Succeeds.bind_pure_iff,
        Element.succeeds_field? density, inductionHypothesis, List.forall_mem_cons]

theorem mem_visibleElements
    {design : Design}
    {element : Element} :
    element ∈ design.visibleElements ↔ element ∈ design.elements ∧ element.visible = true := by
  simp [visibleElements, drawingOrder]

theorem succeeds_program
    {design : Design}
    {scene : Scene}
    (density : IsDensity scene.dotsPerMillimetre) :
    Succeeds (design.program scene) ↔ design.Printable scene := by
  rw [program, Succeeds.bind_iff_and fun _ => Succeeds.bind_iff_and fun _ =>
    Succeeds.bind_pure_iff, Scene.succeeds_dots density, Scene.succeeds_dots density,
    succeeds_fieldsOf density]
  simp only [mem_visibleElements, and_imp]
  constructor
  · rintro ⟨width, height, elements⟩
    exact ⟨width, height, elements⟩
  · rintro ⟨width, height, elements⟩
    exact ⟨width, height, elements⟩

end Design

/-- The context of a label with these options, if their numbers are in range. -/
def Options.place
    (options : Options)
    (clock : Moment) : Context :=
  ⟨options.rowIndex.toNat, options.batchSize.toNat, options.now.getD clock⟩

/-- Options have a context exactly if a model of the context accepts their numbers. -/
theorem Options.context_eq_ok
    {options : Options}
    {clock : Moment}
    {context : Context} :
    options.context clock = .ok context ↔
      0 ≤ options.rowIndex ∧ 1 ≤ options.batchSize ∧ options.place clock = context := by
  simp only [Options.context, Check.andThen_eq_ok, Check.accept_eq_ok, Options.bounded_eq_ok,
    Options.place]
  constructor
  · rintro ⟨_, _, ⟨_, _, ⟨_, _, rfl, ⟨row, rfl⟩, rfl⟩, ⟨batch, rfl⟩, rfl⟩, rfl, rfl⟩
    exact ⟨row, batch, rfl⟩
  · rintro ⟨row, batch, rfl⟩
    exact ⟨_, _, ⟨_, _, ⟨_, _, rfl, ⟨row, rfl⟩, rfl⟩, ⟨batch, rfl⟩, rfl⟩, rfl, rfl⟩

namespace Design

variable {design : Design} {settings : Settings} {clock : Moment} {options : Options}

theorem isDensity_scene
    (settings : Settings)
    (row : Row)
    (options : Options)
    (context : Context) :
    IsDensity (scene settings row options context).dotsPerMillimetre :=
  isDensity_dotsPerMillimetre _

/-- A label comes out exactly if it can be printed at its place. -/
theorem succeeds_render {row : Row} :
    Succeeds (design.render settings clock row options) ↔
      0 ≤ options.rowIndex ∧ 1 ≤ options.batchSize ∧
        design.Printable (scene settings row options (options.place clock)) := by
  unfold render
  split
  · rename_i issues invalid
    apply iff_of_false (Succeeds.not_error _)
    rintro ⟨row, batch, _⟩
    rw [Options.context_eq_ok.2 ⟨row, batch, rfl⟩] at invalid
    cases invalid
  · rename_i context valid
    obtain ⟨row, batch, rfl⟩ := Options.context_eq_ok.1 valid
    rw [← succeeds_program (isDensity_scene ..)]
    split
    · rename_i fault failed
      apply iff_of_false (Succeeds.not_error _)
      rintro ⟨_, _, succeeds⟩
      rw [failed] at succeeds
      exact Succeeds.not_error _ succeeds
    · rename_i program made
      exact iff_of_true (.ok _) ⟨row, batch, ⟨program, made⟩⟩

/-- Moving options to another row of the batch changes the place only. -/
theorem scene_forRow
    (row : Row)
    (place batchSize : Nat) :
    scene settings row ((options.atMoment clock).forRow place batchSize)
        (((options.atMoment clock).forRow place batchSize).place clock) =
      scene settings row options ⟨place, batchSize, options.now.getD clock⟩ := by
  simp [scene, Options.forRow, Options.atMoment, Options.place]

/-- The labels of a list of rows come out exactly if each can be printed at its place. -/
theorem succeeds_renderFrom
    {batchSize : Nat}
    (positive : 1 ≤ batchSize)
    (rows : List Row)
    (first : Nat) :
    Succeeds (renderFrom design settings clock (options.atMoment clock) batchSize first rows) ↔
      ∀ place row, rows[place]? = some row →
        design.Printable
          (scene settings row options
            ⟨first + place, batchSize, options.now.getD clock⟩) := by
  induction rows generalizing first with
  | nil => simp [renderFrom]
  | cons row rows inductionHypothesis =>
      rw [renderFrom, Succeeds.bind_iff_and fun _ => Succeeds.bind_pure_iff, succeeds_render,
        scene_forRow, inductionHypothesis]
      have inRange :
          0 ≤ ((options.atMoment clock).forRow first batchSize).rowIndex ∧
            1 ≤ ((options.atMoment clock).forRow first batchSize).batchSize := by
        constructor
        · exact Int.natCast_nonneg first
        · exact Int.ofNat_le.2 positive
      have shift (place : Nat) : first + 1 + place = first + (place + 1) := by omega
      simp only [inRange, true_and, shift]
      constructor
      · rintro ⟨here, later⟩ place other found
        cases place with
        | zero =>
            cases found
            exact here
        | succ place => exact later place other found
      · intro each
        refine ⟨each 0 row rfl, ?_⟩
        intro place other found
        exact each (place + 1) other found

/--
A label comes out exactly if it can be printed at the place that its options give it, and
the labels of a batch exactly if every row can be printed at its own place.  With workers
that keep its order, the batch as a whole needs a resolution that can be written besides.
-/
theorem succeeds_render_renderBatch
    (design : Design)
    (settings : Settings)
    (clock : Moment)
    (options : Options) :
    (∀ row, Succeeds (design.render settings clock row options) ↔
        0 ≤ options.rowIndex ∧ 1 ≤ options.batchSize ∧
          design.Printable (scene settings row options (options.place clock))) ∧
      (∀ rows, Succeeds (design.renderBatch settings clock rows options) ↔
        ∀ place row, rows[place]? = some row →
          design.Printable
            (scene settings row options
              ⟨place, max rows.length 1, options.now.getD clock⟩)) ∧
        ∀ [Pool], Pool.KeepsOrder → ∀ rows,
          Succeeds (design.runBatch settings clock rows options) ↔
            options.dpi.natAbs < 10 ^ Numeral.digitLimit ∧
              Succeeds (design.renderBatch settings clock rows options) := by
  refine ⟨?_, ?_, ?_⟩
  · intro row
    exact succeeds_render
  · intro rows
    rw [renderBatch, Succeeds.bind_pure_iff, succeeds_renderFrom (le_max_right _ _)]
    simp
  · intro _ ordered rows
    rw [succeeds_runBatch ordered, Numeral.succeeds_write]

/-- Whole millimetres of no more than 48 bits can be measured at every resolution. -/
theorem measures_ofInt
    {scene : Scene}
    (density : IsDensity scene.dotsPerMillimetre)
    {n : Nat}
    (short : n < 2 ^ 48) :
    scene.Measures (.ofInt n) := by
  have short' : (n : Int).natAbs < 2 ^ 53 := by omega
  have product : n * scene.dotsPerMillimetre.toNat < 2 ^ 53 := by
    rcases density with same | same | same <;>
      · simp only [same, Int.reduceToNat]
        omega
  have cast : (scene.dotsPerMillimetre.toNat : ℚ) = scene.dotsPerMillimetre := by
    unfold IsDensity at density
    exact_mod_cast Int.toNat_of_nonneg (by omega)
  rw [Scene.Measures, Double.magnitude_ofInt (Double.lt_overflowBound_of_short short'),
    Double.rounded_natCast short', Int.natAbs_natCast, ← cast]
  exact_mod_cast Double.lt_overflowBound_of_short product

theorem render_renderBatch_bound_text :
    let element : Element :=
      { Element.ofKind .text with
        x := .ofInt 1
        y := .ofInt 2
        rotation := .integer 90
        binding := some "name".toList
        fontSize := some (.ofInt 12) }
    let design : Design := ⟨none, .ofInt 50, .ofInt 30, [element]⟩
    let row : Row := [(.name "name".toList, .text "Ana".toList)]
    let clock : Moment := .midnight ⟨2026, 3, 15, by decide, by decide, by decide⟩
    Succeeds (design.render .initial clock row (.ofResolution 203)) ∧
      Succeeds (design.renderBatch .initial clock [row, []] (.ofResolution 203)) ∧
        Succeeds (design.runBatch .initial clock [row, []] (.ofResolution 203)) := by
  intro element design row clock
  have printable (other : Row) (rowIs : other = row ∨ other = []) (context : Context) :
      design.Printable (scene .initial other (.ofResolution 203) context) := by
    have density := isDensity_scene .initial other (.ofResolution 203) context
    refine ⟨measures_ofInt density (n := 50) (by decide), measures_ofInt density (n := 30)
      (by decide), ?_⟩
    intro drawn member _ kind known
    cases List.mem_singleton.1 member
    cases known
    refine ⟨measures_ofInt density (n := 1) (by decide), measures_ofInt density (n := 2)
      (by decide), ?_⟩
    have content : element.DisplayWritable (scene .initial other (.ofResolution 203) context) := by
      intro _ _ cell found
      rcases rowIs with rfl | rfl
      · cases found
        exact nofun
      · cases found
    have font :
        (scene .initial other (.ofResolution 203) context).Measures
          (element.fontLength (scene .initial other (.ofResolution 203) context)) :=
      measures_ofInt density (n := 2) (by decide)
    refine ⟨content, rfl, font, nofun, ?_⟩
    intro degrees turned
    cases turned
    exact Double.lt_overflowBound_of_short (by decide)
  obtain ⟨single, batch, run⟩ :=
    succeeds_render_renderBatch design .initial clock (.ofResolution 203)
  have labels : Succeeds (design.renderBatch .initial clock [row, []] (.ofResolution 203)) := by
    refine (batch _).2 ?_
    intro place other found
    apply printable
    simpa [eq_comm] using List.mem_of_getElem? found
  have short : 203 < 10 ^ Numeral.digitLimit :=
    lt_of_lt_of_le (by decide : 203 < 10 ^ 3) (Nat.pow_le_pow_right (by decide) (by decide))
  refine ⟨(single row).2 ⟨by decide, by decide, printable row (Or.inl rfl) _⟩, labels, ?_⟩
  exact (run (fun _ _ => rfl) _).2 ⟨short, labels⟩

/-- A finite width whose dots lie beyond the doubles ends rendering without a text. -/
theorem not_succeeds_render_wide :
    ¬ Succeeds
      (render ⟨none, .finite false (2 ^ 52) 971 (by decide), .zero false, []⟩ .initial
        (.midnight ⟨2026, 3, 15, by decide, by decide, by decide⟩) [] (.ofResolution 203)) := by
  intro succeeds
  obtain ⟨-, -, printable⟩ := succeeds_render.1 succeeds
  have width := printable.width.trans Double.overflowBound_lt_top
  change ((2 ^ 52 : Nat) : ℚ) * 2 ^ (971 : Int) * ((8 : Int) : ℚ) < _ at width
  rw [Double.zpow_top] at width
  have step : (0 : ℚ) < 2 ^ (971 : Int) := zpow_pos two_pos _
  generalize (2 : ℚ) ^ (971 : Int) = grid at width step
  push_cast at width
  linarith

end Design
end LabelPress
