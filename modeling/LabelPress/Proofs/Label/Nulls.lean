import LabelPress.Proofs.Document.Entries
import LabelPress.Proofs.Label.Field
import LabelPress.Proofs.Schema.Check
import LabelPress.Proofs.Schema.Defaults

/-!
# Nulls in elements

A field of an element that is null instead of missing.  Main statement: an element with such
fields has the same issues as without them, or is printed the same way in every scene.

For most fields null and nothing are the same value.  Five fields have a default that is not
null but keep a null that is given.  Each of these is read in one place only, and this place
takes null for the default.
-/

namespace LabelPress

/-! ## Entries -/

namespace Document

variable {entries : Entries} {name : Text} {names : List Text}

/-- The entries after null was put under some names. -/
def putNulls
    (entries : Entries)
    (names : List Text) : Entries :=
  names.foldl (fun known name => put known (.text name) .null) entries

theorem get?_putNulls :
    get? (putNulls entries names) name =
      if name ∈ names then some .null else get? entries name := by
  induction names generalizing entries with
  | nil => simp [putNulls]
  | cons first rest inductionHypothesis =>
      rw [putNulls, List.foldl_cons, ← putNulls, inductionHypothesis, get?_put]
      by_cases later : name ∈ rest
      · simp [later]
      · simp [later]

/-- What was given stays as it is if null is put under other names only. -/
theorem get?_putNulls_of_given
    (absent : ∀ name ∈ names, get? entries name = none)
    (given : get? entries name ≠ none) :
    get? (putNulls entries names) name = get? entries name := by
  rw [get?_putNulls, if_neg fun member => given (absent name member)]

/-- A name has the same value in both mappings, or null in the other one instead of nothing. -/
def SameOrNull
    (entries other : Entries)
    (name : Text) : Prop :=
  get? other name = get? entries name ∨
    get? entries name = none ∧ get? other name = some .null

theorem sameOrNull_putNulls
    (absent : ∀ name ∈ names, get? entries name = none)
    (name : Text) :
    SameOrNull entries (putNulls entries names) name := by
  rw [SameOrNull, get?_putNulls]
  by_cases member : name ∈ names
  · rw [if_pos member]
    exact .inr ⟨absent name member, rfl⟩
  · rw [if_neg member]
    exact .inl rfl

end Document

/-! ## Checks of fields -/

namespace Check

variable {α : Type} {entries other : Document.Entries} {name : String} {default value : α}
  {check : Document → Check α}

theorem required_congr
    (same : Document.get? other name.toList = Document.get? entries name.toList) :
    required other name check = required entries name check := by
  rw [required, required, same]

/-- Nothing changes where null means the default. -/
theorem optional_eq_of_sameOrNull
    (fields : Document.SameOrNull entries other name.toList)
    (null : check .null = .ok default) :
    optional other name default check = optional entries name default check := by
  rw [optional, optional]
  rcases fields with same | ⟨missing, given⟩
  · rw [same]
  · rw [missing, given]
    exact congrArg (within _) null

/-- The values are the same, or the other one is what null means instead of the default. -/
def SameOrDefault
    (default null value other : α) : Prop :=
  other = value ∨ value = default ∧ other = null

theorem alike_optional
    {null : α}
    (fields : Document.SameOrNull entries other name.toList)
    (accepted : check .null = .ok null) :
    Alike (SameOrDefault default null)
      (optional entries name default check) (optional other name default check) := by
  rw [optional, optional]
  rcases fields with same | ⟨missing, given⟩
  · rw [same]
    exact .refl (fun _ => .inl rfl) _
  · rw [missing, given]
    dsimp only
    rw [accepted]
    exact .ok (.inr ⟨rfl, rfl⟩)

end Check

/-! ## Elements -/

namespace Element

variable {element other : Element} {scene : Scene}

/-- Two elements are printed the same way. -/
structure SamePrint (element other : Element) : Prop where
  /-- Both are printed or neither. -/
  visible : other.visible = element.visible
  /-- Both are in the same layer. -/
  zIndex : other.zIndex = element.zIndex
  /-- Both have the same field in every scene. -/
  field? : ∀ scene, other.field? scene = element.field? scene

/-- The other element has null in fields that are not given in the first one. -/
structure DiffersByNulls (element other : Element) : Prop where
  /-- The rotation is kept as it is given. -/
  rotation : Check.SameOrDefault (.real (.zero false)) .null element.rotation other.rotation
  /-- Null is neither true nor false. -/
  autoFit : Check.SameOrDefault (some false) none element.autoFit other.autoFit
  /-- Null is no size. -/
  minFontSize :
    Check.SameOrDefault (some (.ofInt 6)) none element.minFontSize other.minFontSize
  /-- Null is no name of a symbology. -/
  barcodeFormat :
    Check.SameOrDefault (some "CODE128".toList) none element.barcodeFormat other.barcodeFormat
  /-- Null is no name of a level. -/
  qrErrorLevel :
    Check.SameOrDefault (some "M".toList) none element.qrErrorLevel other.qrErrorLevel
  /-- All other fields are the same. -/
  rest :
    other =
      { element with
        rotation := other.rotation
        autoFit := other.autoFit
        minFontSize := other.minFontSize
        barcodeFormat := other.barcodeFormat
        qrErrorLevel := other.qrErrorLevel }

namespace DiffersByNulls

variable (differs : element.DiffersByNulls other)

include differs

theorem orientation_eq : other.orientation = element.orientation := by
  rw [orientation, orientation]
  rcases differs.rotation with same | ⟨default, null⟩
  · rw [same]
  · rw [default, null]
    decide +kernel

theorem fits_iff : other.autoFit = some true ↔ element.autoFit = some true := by
  rcases differs.autoFit with same | ⟨default, null⟩
  · rw [same]
  · rw [default, null]
    decide

theorem leastSize_eq :
    nonzeroOr other.minFontSize defaultMinFontSize =
      nonzeroOr element.minFontSize defaultMinFontSize := by
  rcases differs.minFontSize with same | ⟨default, null⟩
  · rw [same]
  · rw [default, null, nonzeroOr, nonzeroOr, defaultMinFontSize, ite_self]

theorem symbology_eq :
    Symbology.ofName other.barcodeFormat = Symbology.ofName element.barcodeFormat := by
  rcases differs.barcodeFormat with same | ⟨default, null⟩
  · rw [same]
  · rw [default, null]
    decide

theorem correctionLevel_eq :
    CorrectionLevel.ofName other.qrErrorLevel = CorrectionLevel.ofName element.qrErrorLevel := by
  rcases differs.qrErrorLevel with same | ⟨default, null⟩
  · rw [same]
  · rw [default, null]
    decide

/-- Null fields do not show in print. -/
theorem samePrint : element.SamePrint other := by
  have orientation := differs.orientation_eq
  have fits := differs.fits_iff
  have least := differs.leastSize_eq
  have symbology := differs.symbology_eq
  have level := differs.correctionLevel_eq
  obtain ⟨rotation, autoFit, minFontSize, barcodeFormat, qrErrorLevel, rfl⟩ :
      ∃ rotation autoFit minFontSize barcodeFormat qrErrorLevel,
        other =
          { element with
            rotation := rotation
            autoFit := autoFit
            minFontSize := minFontSize
            barcodeFormat := barcodeFormat
            qrErrorLevel := qrErrorLevel } :=
    ⟨_, _, _, _, _, differs.rest⟩
  refine ⟨rfl, rfl, fun scene => ?_⟩
  unfold field? kind?
  cases ElementKind.ofName? element.type with
  | none => rfl
  | some kind =>
      cases kind with
      | text =>
          simp only [body, textBody_eq, textHeight, fits, fittedFontDots, least, orientation]
          rfl
      | barcode =>
          simp only [body, barcodeBody, symbology, orientation]
          rfl
      | qr =>
          simp only [body, qrBody, level]
          rfl
      | rectangle | line | circle | image => rfl

end DiffersByNulls

/-! ## Elements of data files -/

section Fields

variable {entries others : Document.Entries} {name : String}
  (fields : ∀ name, Document.SameOrNull entries others name)

include fields

theorem checkReal_eq : checkReal others name = checkReal entries name :=
  Check.optional_eq_of_sameOrNull (fields _) rfl

theorem checkText_eq {default : String} :
    checkText others name default = checkText entries name default :=
  Check.optional_eq_of_sameOrNull (fields _) rfl

theorem checkBoolean_eq {default : Bool} :
    checkBoolean others name default = checkBoolean entries name default :=
  Check.optional_eq_of_sameOrNull (fields _) rfl

theorem checkReal?_eq : checkReal? others name none = checkReal? entries name none :=
  Check.optional_eq_of_sameOrNull (fields _) rfl

theorem checkText?_eq : checkText? others name none = checkText? entries name none :=
  Check.optional_eq_of_sameOrNull (fields _) rfl

theorem checkLayer_eq :
    Check.optional others name 0 (Check.nullAs 0 Check.integer) =
      Check.optional entries name 0 (Check.nullAs 0 Check.integer) :=
  Check.optional_eq_of_sameOrNull (fields _) rfl

theorem alike_checkReal? {default : Option Double} :
    Check.Alike (Check.SameOrDefault default none)
      (checkReal? entries name default) (checkReal? others name default) :=
  Check.alike_optional (fields _) rfl

theorem alike_checkText? {default : Option Text} :
    Check.Alike (Check.SameOrDefault default none)
      (checkText? entries name default) (checkText? others name default) :=
  Check.alike_optional (fields _) rfl

/-- Elements are checked alike if their identifiers and kinds are the same. -/
theorem differsByNulls_ofEntries
    (id : Document.get? others "id".toList = Document.get? entries "id".toList)
    (type : Document.get? others "type".toList = Document.get? entries "type".toList) :
    Check.Alike DiffersByNulls (ofEntries entries) (ofEntries others) := by
  unfold ofEntries
  rw [Check.required_congr id, Check.required_congr type]
  simp only [checkReal_eq fields, checkText_eq fields, checkBoolean_eq fields,
    checkReal?_eq fields, checkText?_eq fields, checkLayer_eq fields]
  have turned :
      Check.Alike (Check.SameOrDefault (.real (.zero false)) .null)
        (Check.optional entries "rotation" (.real (.zero false)) .ok)
        (Check.optional others "rotation" (.real (.zero false)) .ok) :=
    Check.alike_optional (fields _) rfl
  have fitted :
      Check.Alike (Check.SameOrDefault (some false) none)
        (Check.optional entries "text_auto_fit" (some false) (Check.nullable Check.boolean))
        (Check.optional others "text_auto_fit" (some false) (Check.nullable Check.boolean)) :=
    Check.alike_optional (fields _) rfl
  -- From the last argument to the first one.
  iterate 8 apply Check.Alike.andThen_same
  apply Check.Alike.andThen _ (alike_checkText? fields)
  apply Check.Alike.andThen_same
  apply Check.Alike.andThen _ (alike_checkText? fields)
  apply Check.Alike.andThen _ (alike_checkReal? fields)
  apply Check.Alike.andThen _ fitted
  iterate 7 apply Check.Alike.andThen_same
  apply Check.Alike.andThen _ turned
  iterate 6 apply Check.Alike.andThen_same
  apply Check.Alike.ok
  intro id type x y width height rotation otherRotation rotations binding textContent fontSize
    fontFamily fontWeight textAlign color autoFit otherFit fits minFontSize otherSize sizes
    barcodeFormat otherFormat formats barcodeShowText qrErrorLevel otherLevel levels borderWidth
    borderColor backgroundColor borderRadius imageUrl zIndex visible name
  exact ⟨rotations, fits, sizes, formats, levels, rfl⟩

end Fields

/--
Null is put under any names that a mapping with an identifier and a type lacks.  Either both
mappings have the same issues, or both are elements that are printed the same way.
-/
theorem ofEntries_putNulls
    {entries : Document.Entries}
    {names : List Text}
    (identified : Document.get? entries "id".toList ≠ none)
    (typed : Document.get? entries "type".toList ≠ none)
    (absent : ∀ name ∈ names, Document.get? entries name = none) :
    Check.Alike SamePrint (ofEntries entries)
      (ofEntries (Document.putNulls entries names)) := by
  have differs :=
    differsByNulls_ofEntries (Document.sameOrNull_putNulls absent)
      (Document.get?_putNulls_of_given absent identified)
      (Document.get?_putNulls_of_given absent typed)
  exact differs.imp fun _ _ => DiffersByNulls.samePrint

theorem ofEntries_putNulls_turned_barcode :
    let entries : Document.Entries :=
      [(.text "id".toList, .text "e".toList), (.text "type".toList, .text "barcode".toList),
        (.text "text_content".toList, .text "x".toList)]
    let names :=
      ["rotation".toList, "barcode_format".toList, "height".toList, "z_index".toList,
        "color".toList, "barcode_show_text".toList, "text_min_font_size".toList]
    let element : Element :=
      { Element.ofKind .barcode with
        id := "e".toList
        textContent := some "x".toList }
    let other : Element :=
      { element with
        rotation := .null
        barcodeFormat := none
        minFontSize := none }
    Document.get? entries "id".toList ≠ none ∧
      Document.get? entries "type".toList ≠ none ∧
      (∀ name ∈ names, Document.get? entries name = none) ∧
      ofEntries entries = .ok element ∧
      ofEntries (Document.putNulls entries names) = .ok other ∧
      element.SamePrint other := by
  intro entries names element other
  have identified : Document.get? entries "id".toList ≠ none := Option.some_ne_none _
  have typed : Document.get? entries "type".toList ≠ none := Option.some_ne_none _
  have absent : ∀ name ∈ names, Document.get? entries name = none := by
    simp only [names, List.forall_mem_cons]
    exact ⟨rfl, rfl, rfl, rfl, rfl, rfl, rfl, by simp⟩
  have made : ofEntries entries = .ok element := rfl
  have added :
      Document.putNulls entries names =
        entries ++ names.map fun name => (.text name, .null) :=
    rfl
  have otherMade : ofEntries (Document.putNulls entries names) = .ok other := by
    rw [added]
    rfl
  have alike := ofEntries_putNulls identified typed absent
  rw [made, otherMade] at alike
  cases alike with
  | ok same => exact ⟨identified, typed, absent, made, otherMade, same⟩

end Element
end LabelPress
