import LabelPress.Label.Content
import LabelPress.Proofs.Number.Numeral
import LabelPress.Proofs.Outcome
import LabelPress.Proofs.Row.Record
import Mathlib.Algebra.Group.Nat.Defs

/-!
# Content that comes out

Whether an element has a content.  Templates always have one, as their faults become a
part of the text; the text of a column is missing only for an integer with more digits
than are written.
-/

namespace LabelPress

/-- A cell is written unless it is an integer of too many digits. -/
def Cell.Writable (cell : Cell) : Prop :=
  ∀ n, cell = .integer n → n.natAbs < 10 ^ Numeral.digitLimit

theorem Numeral.succeeds_write {n : Int} :
    Succeeds (write n) ↔ n.natAbs < 10 ^ digitLimit := by
  rw [write_eq]
  split_ifs with short
  · exact iff_of_true (.ok _) short
  · exact iff_of_false (Succeeds.not_error _) short

theorem Cell.succeeds_text? {cell : Cell} :
    Succeeds cell.text? ↔ cell.Writable := by
  cases cell with
  | integer n => simp [text?, Writable, Numeral.succeeds_write]
  | _ => simp [text?, Writable]

/-- A cell that a row finds is never a null cell. -/
theorem Row.isNull_of_find?
    {row : Row}
    {name : Text}
    {cell : Cell}
    (found : row.find? name = some cell) :
    cell.isNull = false := by
  obtain ⟨key, -, present, -⟩ := mem_record.1 (mem_record_of_find? found)
  exact present

theorem Cell.text?_ne_none
    {cell : Cell}
    (present : cell.isNull = false) :
    cell.text? ≠ .ok none := by
  cases cell with
  | null => simp [isNull] at present
  | integer n =>
      intro none
      obtain ⟨text, -, none⟩ := map_eq_ok.1 none
      cases none
  | _ => simp [text?]

namespace Element

/-- The cell that an element is bound to: the assigned column comes first. -/
def sourceCell?
    (element : Element)
    (row : Row)
    (mapping : ColumnMapping) : Option Cell :=
  ((element.mappedColumn? mapping).bind row.find?).or
    ((element.binding.filter fun name => !name.isEmpty).bind row.find?)

variable {element : Element} {row : Row} {context : Context} {mapping : ColumnMapping}

theorem mappedText?_eq :
    element.mappedText? row mapping =
      match (element.mappedColumn? mapping).bind row.find? with
      | none => .ok none
      | some cell => cell.text? := by
  unfold mappedText?
  cases element.mappedColumn? mapping with
  | none => rfl
  | some column => rfl

theorem boundText?_eq :
    element.boundText? row =
      match (element.binding.filter fun name => !name.isEmpty).bind row.find? with
      | none => .ok none
      | some cell => cell.text? := by
  unfold boundText?
  cases element.binding with
  | none => rfl
  | some name =>
      cases name with
      | nil => rfl
      | cons c rest => rfl

/-- The text of an element's column is that of its cell. -/
theorem columnText?_eq :
    element.columnText? row mapping =
      match element.sourceCell? row mapping with
      | none => .ok none
      | some cell => cell.text? := by
  unfold columnText? sourceCell?
  rw [mappedText?_eq]
  cases found : (element.mappedColumn? mapping).bind row.find? with
  | none =>
      rw [Option.none_or]
      exact boundText?_eq
  | some cell =>
      obtain ⟨column, -, found⟩ := Option.bind_eq_some_iff.1 found
      have present := Cell.text?_ne_none (Row.isNull_of_find? found)
      rw [Option.some_or]
      dsimp only
      cases written : cell.text? with
      | error fault => rfl
      | ok text =>
          cases text with
          | none => exact absurd written present
          | some text => rfl

theorem succeeds_columnText? :
    Succeeds (element.columnText? row mapping) ↔
      ∀ cell, element.sourceCell? row mapping = some cell → cell.Writable := by
  rw [columnText?_eq]
  cases element.sourceCell? row mapping with
  | none => simp
  | some cell => simpa using Cell.succeeds_text?

/-- A text element has a content unless it is bound to an unwritable cell. -/
theorem succeeds_displayText :
    Succeeds (element.displayText row context mapping) ↔
      (element.template? = none → element.binding.getD [] ≠ [] →
        ∀ cell, element.sourceCell? row mapping = some cell → cell.Writable) := by
  unfold displayText
  cases element.template? with
  | some template => simp
  | none =>
      dsimp only
      split
      · rename_i empty
        simp [List.isEmpty_iff.1 empty]
      · rename_i bound
        rw [List.isEmpty_iff] at bound
        simp only [forall_const, ne_eq, bound, not_false_eq_true, ← succeeds_columnText?]
        rw [Succeeds.bind_iff]
        constructor
        · rintro ⟨text, read, _⟩
          exact ⟨text, read⟩
        · rintro ⟨text, read⟩
          exact ⟨text, read, .pure _⟩

/-- A code has a content unless it is bound to an unwritable cell. -/
theorem succeeds_codeText :
    Succeeds (element.codeText row context mapping) ↔
      (element.template? = none →
        ∀ cell, element.sourceCell? row mapping = some cell → cell.Writable) := by
  unfold codeText
  cases element.template? with
  | some template => simp
  | none =>
      simp only [forall_const, ← succeeds_columnText?]
      rw [Succeeds.bind_iff]
      constructor
      · rintro ⟨text, read, _⟩
        exact ⟨text, read⟩
      · rintro ⟨text, read⟩
        refine ⟨text, read, ?_⟩
        cases text <;> exact .pure _

end Element
end LabelPress
