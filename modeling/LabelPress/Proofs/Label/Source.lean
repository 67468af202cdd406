import LabelPress.Proofs.Label.Content
import LabelPress.Proofs.Schema.Defaults
import LabelPress.Proofs.Text.Search

/-!
# Where a content comes from

A bound text and a bound code look for their content at the same places: in the assigned
column, in the bound column and in the fixed text.  Main statements: a code comes out empty
exactly if the cell that it finds is an empty text; and it differs from the text with the same
binding exactly if nothing is found, where the text is empty and the code is its binding.

A column counts as soon as it has a cell that is not null, a fixed text only if it is not
empty.  So an empty cell ends the search, and a null cell does not.
-/

namespace LabelPress

/-! ## Texts of cells -/

theorem Numeral.ofInt_ne_nil (n : Int) :
    ofInt n ≠ [] := by
  cases n with
  | ofNat n => exact ofNat_ne_nil n
  | negSucc n => exact List.cons_ne_nil _ _

theorem Double.Decimal.write_ne_nil (decimal : Decimal) :
    decimal.write ≠ [] := by
  unfold write
  dsimp only
  split_ifs <;> simp

theorem Double.toText_ne_nil (value : Double) :
    value.toText ≠ [] := by
  cases value with
  | nan => exact List.cons_ne_nil _ _
  | infinite negative => exact List.append_ne_nil_of_right_ne_nil _ (List.cons_ne_nil _ _)
  | finite negative significand exponent canonical =>
      apply List.append_ne_nil_of_right_ne_nil
      split_ifs
      · exact List.cons_ne_nil _ _
      · exact Decimal.write_ne_nil _

theorem Date.isoText_ne_nil (date : Date) :
    date.isoText ≠ [] := by
  simp [isoText]

theorem Moment.write_ne_nil
    (separator : Char)
    (moment : Moment) :
    moment.write separator ≠ [] := by
  simp [write]

/-- Only an empty text is written as one. -/
theorem Cell.text?_eq_nil_iff
    {cell : Cell} :
    cell.text? = .ok (some []) ↔ cell = .text [] := by
  cases cell with
  | null => simp [text?]
  | flag value => cases value <;> simp [text?]
  | integer n =>
      refine iff_of_false ?_ (by simp)
      rw [text?, Numeral.write_eq]
      split_ifs
      · simp [Except.map, Numeral.ofInt_ne_nil]
      · simp [Except.map]
  | real value => simp [text?, Double.toText_ne_nil]
  | text value => simp [text?]
  | date value => simp [text?, Date.isoText_ne_nil]
  | moment value => simp [text?, Moment.write_ne_nil]

/-- A cell that is not null has a text, if it can be written. -/
theorem Cell.text?_eq_map_toText
    {cell : Cell}
    (present : cell.isNull = false) :
    cell.text? = cell.toText.map some := by
  have written := text?_ne_none present
  unfold toText
  cases text : cell.text? with
  | error fault => rfl
  | ok text? =>
      cases text? with
      | none => exact absurd text written
      | some value => rfl

theorem Cell.toText_eq_nil_iff
    {cell : Cell}
    (present : cell.isNull = false) :
    cell.toText = .ok [] ↔ cell = .text [] := by
  rw [← text?_eq_nil_iff, text?_eq_map_toText present, map_eq_ok]
  simp

theorem orElse_ne_nil
    {text substitute : Text}
    (nonempty : substitute ≠ []) :
    orElse text substitute ≠ [] := by
  rw [orElse]
  split
  · exact nonempty
  · rename_i filled
    simpa using filled

theorem Template.isExpression_iff
    {text : Text} :
    isExpression text = true ↔ opening <:+: text :=
  Text.contains_iff (by decide)

namespace Element

variable {element : Element} {row : Row} {context : Context} {mapping : ColumnMapping}
  {binding : Text}

/-! ## Where a content is found -/

theorem isNull_of_sourceCell?
    {cell : Cell}
    (found : element.sourceCell? row mapping = some cell) :
    cell.isNull = false := by
  rcases Option.or_eq_some_iff.1 found with assigned | ⟨-, bound⟩
  · obtain ⟨name, -, found⟩ := Option.bind_eq_some_iff.1 assigned
    exact Row.isNull_of_find? found
  · obtain ⟨name, -, found⟩ := Option.bind_eq_some_iff.1 bound
    exact Row.isNull_of_find? found

/-- No cell is found if neither column has a value; an empty name assigns no column. -/
theorem sourceCell?_eq_none_iff
    (bound : element.binding = some binding)
    (nonempty : binding ≠ []) :
    element.sourceCell? row mapping = none ↔
      (∀ column, mapping.lookup element.id = some column → column ≠ [] →
        ¬ row.HasValue column) ∧
        ¬ row.HasValue binding := by
  have named : (some binding).filter (fun name => !name.isEmpty) = some binding := by
    simp [nonempty]
  rw [sourceCell?, Option.or_eq_none_iff, bound, named, Option.bind_some,
    Row.find?_eq_none_iff, mappedColumn?]
  apply and_congr_left'
  rw [Option.bind_eq_none_iff]
  simp only [Option.filter_eq_some_iff, Row.find?_eq_none_iff, Bool.not_eq_true',
    List.isEmpty_eq_false_iff, and_imp]

theorem columnText?_eq_of_sourceCell?
    {cell : Cell}
    (found : element.sourceCell? row mapping = some cell) :
    element.columnText? row mapping = cell.toText.map some := by
  rw [columnText?_eq, found]
  exact Cell.text?_eq_map_toText (isNull_of_sourceCell? found)

theorem template?_eq_none
    (bound : element.binding = some binding)
    (plain : ¬ Template.opening <:+: binding) :
    element.template? = none := by
  have noExpression : Template.isExpression binding = false := by
    rwa [← Template.isExpression_iff, Bool.not_eq_true] at plain
  rw [template?, bound, Option.filter_some, noExpression]
  rfl

theorem template?_eq_some
    (bound : element.binding = some binding)
    (templated : Template.opening <:+: binding) :
    element.template? = some binding := by
  rw [template?, bound, Option.filter_some, Template.isExpression_iff.2 templated]
  rfl

/-! ## Texts and codes of columns -/

/-- A text that is no template shows the cell that is found. -/
theorem displayText_of_sourceCell?
    {cell : Cell}
    (plain : element.template? = none)
    (bound : element.binding.getD [] ≠ [])
    (found : element.sourceCell? row mapping = some cell) :
    element.displayText row context mapping = cell.toText := by
  rw [displayText, plain, columnText?_eq_of_sourceCell? found]
  dsimp only
  rw [if_neg (by simpa using bound)]
  cases cell.toText <;> rfl

/-- A code that is no template encodes the cell that is found. -/
theorem codeText_of_sourceCell?
    {cell : Cell}
    (plain : element.template? = none)
    (found : element.sourceCell? row mapping = some cell) :
    element.codeText row context mapping = cell.toText := by
  rw [codeText, plain, columnText?_eq_of_sourceCell? found]
  dsimp only
  cases cell.toText <;> rfl

/-- A bound text shows the cell that is found, or else its fixed text. -/
theorem displayText_eq
    (bound : element.binding = some binding)
    (nonempty : binding ≠ [])
    (plain : ¬ Template.opening <:+: binding) :
    element.displayText row context mapping =
      match element.sourceCell? row mapping with
      | some cell => cell.toText
      | none => .ok element.fixedText := by
  have named : element.binding.getD [] ≠ [] := by
    simpa [bound] using nonempty
  have noTemplate := template?_eq_none bound plain
  cases found : element.sourceCell? row mapping with
  | some cell => exact displayText_of_sourceCell? noTemplate named found
  | none =>
      rw [displayText, noTemplate, columnText?_eq, found]
      dsimp only
      rw [if_neg (by simpa using named)]
      rfl

/-- A bound code has its binding behind the fixed text. -/
theorem codeText_eq
    (bound : element.binding = some binding)
    (plain : ¬ Template.opening <:+: binding) :
    element.codeText row context mapping =
      match element.sourceCell? row mapping with
      | some cell => cell.toText
      | none => .ok (orElse element.fixedText binding) := by
  have noTemplate := template?_eq_none bound plain
  cases found : element.sourceCell? row mapping with
  | some cell => exact codeText_of_sourceCell? noTemplate found
  | none =>
      rw [codeText, noTemplate, columnText?_eq, found, bound]
      rfl

/-! ## Codes that come out empty -/

/-- A bound code is empty only if it shows a cell with an empty text. -/
theorem codeText_eq_nil_iff
    (bound : element.binding = some binding)
    (nonempty : binding ≠ [])
    (plain : ¬ Template.opening <:+: binding) :
    element.codeText row context mapping = .ok [] ↔
      element.sourceCell? row mapping = some (.text []) := by
  rw [codeText_eq bound plain]
  cases found : element.sourceCell? row mapping with
  | none => simpa using orElse_ne_nil nonempty
  | some cell => simpa using Cell.toText_eq_nil_iff (isNull_of_sourceCell? found)

/--
What a bound code encodes: the text of the cell that is found, then the fixed text, then the
binding.  It has a content that is not empty exactly if a cell that is found can be written and
is no empty text; an empty text hides the sources behind it and comes out as it is.
-/
theorem codeText_fills_iff
    (bound : element.binding = some binding)
    (nonempty : binding ≠ [])
    (plain : ¬ Template.opening <:+: binding) :
    element.codeText row context mapping =
        (match element.sourceCell? row mapping with
        | some cell => cell.toText
        | none => .ok (orElse element.fixedText binding)) ∧
      ((∃ text, element.codeText row context mapping = .ok text ∧ text ≠ []) ↔
        ∀ cell, element.sourceCell? row mapping = some cell →
          cell.Writable ∧ cell ≠ .text []) ∧
      (element.codeText row context mapping = .ok [] ↔
        element.sourceCell? row mapping = some (.text [])) := by
  have written : Succeeds (element.codeText row context mapping) ↔
      ∀ cell, element.sourceCell? row mapping = some cell → cell.Writable := by
    rw [succeeds_codeText, template?_eq_none bound plain, forall_prop_of_true rfl]
  have empty : element.codeText row context mapping = .ok [] ↔
      element.sourceCell? row mapping = some (.text []) :=
    codeText_eq_nil_iff bound nonempty plain
  refine ⟨codeText_eq bound plain, ?_, empty⟩
  constructor
  · rintro ⟨text, made, filled⟩ cell found
    refine ⟨written.1 ⟨text, made⟩ cell found, ?_⟩
    rintro rfl
    rw [empty.2 found] at made
    cases made
    exact filled rfl
  · intro filled
    obtain ⟨text, made⟩ := written.2 fun cell found => (filled cell found).1
    refine ⟨text, made, ?_⟩
    rintro rfl
    exact (filled _ (empty.1 made)).2 rfl

theorem codeText_fills_iff_null_cell :
    let element : Element :=
      { Element.ofKind .barcode with
        id := "e".toList
        binding := some "sku".toList
        textContent := some [] }
    let row : Row := [(.name "SKU".toList, .null), (.name "other".toList, .text [])]
    let mapping : ColumnMapping := [("e".toList, "absent".toList)]
    let now : Moment := .midnight ⟨2026, 3, 15, by decide, by decide, by decide⟩
    element.binding = some "sku".toList ∧ ¬ Template.opening <:+: "sku".toList ∧
      element.codeText row ⟨0, 1, now⟩ mapping = .ok "sku".toList ∧
      ∃ text, element.codeText row ⟨0, 1, now⟩ mapping = .ok text ∧ text ≠ [] := by
  intro element row mapping now
  have plain : ¬ Template.opening <:+: "sku".toList := by decide
  have missing : element.sourceCell? row mapping = none := by decide
  obtain ⟨made, filled, -⟩ :=
    @codeText_fills_iff element row ⟨0, 1, now⟩ mapping _ rfl (by decide) plain
  refine ⟨rfl, plain, ?_, filled.2 fun cell found => ?_⟩
  · rw [made, missing]
    rfl
  · rw [missing] at found
    cases found

/-- An empty cell makes a bound code empty. -/
theorem codeText_of_empty_cell :
    let element : Element :=
      { Element.ofKind .barcode with
        id := "e".toList
        binding := some "sku".toList }
    let row : Row := [(.name "sku".toList, .text [])]
    let now : Moment := .midnight ⟨2026, 3, 15, by decide, by decide, by decide⟩
    element.binding = some "sku".toList ∧ ¬ Template.opening <:+: "sku".toList ∧
      element.codeText row ⟨0, 1, now⟩ [] = .ok [] := by
  intro element row now
  exact ⟨rfl, by decide, by decide⟩

/-! ## Codes beside texts -/

/--
Nothing but its binding is there for the content of an element: it is no template, no column
has a value, and there is no fixed text.
-/
structure Unsourced
    (element : Element)
    (binding : Text)
    (row : Row)
    (mapping : ColumnMapping) : Prop where
  plain : ¬ Template.opening <:+: binding
  unassigned : ∀ column, mapping.lookup element.id = some column → column ≠ [] →
    ¬ row.HasValue column
  unbound : ¬ row.HasValue binding
  unfixed : element.textContent = none ∨ element.textContent = some []

theorem fixedText_eq_nil_iff :
    element.fixedText = [] ↔ element.textContent = none ∨ element.textContent = some [] := by
  rw [fixedText]
  cases element.textContent <;> simp

theorem unsourced_iff
    (bound : element.binding = some binding)
    (nonempty : binding ≠ [])
    (plain : ¬ Template.opening <:+: binding) :
    element.Unsourced binding row mapping ↔
      element.sourceCell? row mapping = none ∧ element.fixedText = [] := by
  rw [sourceCell?_eq_none_iff bound nonempty, fixedText_eq_nil_iff]
  constructor
  · rintro ⟨-, unassigned, unbound, unfixed⟩
    exact ⟨⟨unassigned, unbound⟩, unfixed⟩
  · rintro ⟨⟨unassigned, unbound⟩, unfixed⟩
    exact ⟨plain, unassigned, unbound, unfixed⟩

/--
A bound code and a bound text have the same content, or fail the same way, unless nothing but
the binding is there: the text is then empty and the code is the binding.
-/
theorem codeText_eq_displayText_iff
    (bound : element.binding = some binding)
    (nonempty : binding ≠ []) :
    (element.codeText row context mapping = element.displayText row context mapping ↔
        ¬ element.Unsourced binding row mapping) ∧
      (element.Unsourced binding row mapping →
        element.displayText row context mapping = .ok [] ∧
          element.codeText row context mapping = .ok binding) := by
  rcases em (Template.opening <:+: binding) with templated | plain
  · have sourced : ¬ element.Unsourced binding row mapping := fun none => none.plain templated
    refine ⟨iff_of_true ?_ sourced, fun none => absurd none sourced⟩
    rw [codeText, displayText, template?_eq_some bound templated]
  · rw [unsourced_iff bound nonempty plain, codeText_eq bound plain,
      displayText_eq bound nonempty plain]
    cases found : element.sourceCell? row mapping with
    | some cell => simp
    | none =>
        by_cases fixed : element.fixedText = []
        · simp [fixed, orElse, nonempty]
        · simp [fixed, orElse]

theorem codeText_eq_displayText_iff_assigned_column :
    let element : Element :=
      { Element.ofKind .qr with
        id := "e".toList
        binding := some "sku".toList
        textContent := some [] }
    let row : Row := [(.name "SKU".toList, .null), (.name "code".toList, .text "x1".toList)]
    let nullRow : Row := [(.name "SKU".toList, .null), (.name "other".toList, .text [])]
    let mapping : ColumnMapping := [("e".toList, "code".toList)]
    let now : Moment := .midnight ⟨2026, 3, 15, by decide, by decide, by decide⟩
    element.binding = some "sku".toList ∧
      (¬ element.Unsourced "sku".toList row mapping ∧
        element.displayText row ⟨0, 1, now⟩ mapping = .ok "x1".toList ∧
        element.codeText row ⟨0, 1, now⟩ mapping = .ok "x1".toList) ∧
      element.Unsourced "sku".toList nullRow mapping ∧
        element.displayText nullRow ⟨0, 1, now⟩ mapping = .ok [] ∧
        element.codeText nullRow ⟨0, 1, now⟩ mapping = .ok "sku".toList := by
  intro element row nullRow mapping now
  have sourced : ¬ element.Unsourced "sku".toList row mapping := by
    rw [unsourced_iff rfl (by decide) (by decide)]
    decide
  have unsourced : element.Unsourced "sku".toList nullRow mapping :=
    (unsourced_iff rfl (by decide) (by decide)).2 ⟨by decide, rfl⟩
  have shown : element.displayText row ⟨0, 1, now⟩ mapping = .ok "x1".toList := by decide
  have agree : element.codeText row ⟨0, 1, now⟩ mapping =
      element.displayText row ⟨0, 1, now⟩ mapping :=
    (codeText_eq_displayText_iff rfl (by decide)).1.2 sourced
  exact ⟨rfl, ⟨sourced, shown, agree.trans shown⟩, unsourced,
    (codeText_eq_displayText_iff rfl (by decide)).2 unsourced⟩

/-- A column without a name is not assigned, even if the row has one. -/
theorem codeText_of_unnamed_column :
    let element : Element :=
      { Element.ofKind .barcode with
        id := "e".toList
        binding := some "sku".toList }
    let row : Row := [(.name [], .text "x".toList)]
    let mapping : ColumnMapping := [("e".toList, [])]
    let now : Moment := .midnight ⟨2026, 3, 15, by decide, by decide, by decide⟩
    element.binding = some "sku".toList ∧ mapping.lookup element.id = some [] ∧
      row.HasValue [] ∧
      element.displayText row ⟨0, 1, now⟩ mapping = .ok [] ∧
      element.codeText row ⟨0, 1, now⟩ mapping = .ok "sku".toList := by
  intro element row mapping now
  have present : row.HasValue [] := ⟨[], .text "x".toList, List.mem_cons_self, by decide, rfl⟩
  exact ⟨rfl, by decide, present, by decide, by decide⟩

end Element
end LabelPress
