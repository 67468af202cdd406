import LabelPress.Row
import Mathlib.Data.List.Nodup
import Mathlib.Data.List.Perm.Basic
import Mathlib.Logic.Relation

/-!
# Rows as records

What of a row can be found: its cells that are not null, under their names in lower case
and in any order.  Main statement: if no two of these names differ only in case, the texts
that names find stay the same when the cells change places, names change case, and null
cells and cells without a name come and go.

With such names at most one cell answers to a name, so it does not matter that the lookup
goes by the exact name first and takes the first cell that it meets.
-/

namespace LabelPress
theorem Cell.isNull_eq_false_iff
    {cell : Cell} :
    cell.isNull = false ↔ cell ≠ .null := by
  cases cell <;> simp [isNull]

namespace Row

/-- A cell with its name in lower case, unless it is null or has no name. -/
def recordCell? : ColumnKey × Cell → Option (Text × Cell)
  | (.name key, cell) => if cell.isNull then none else some (Text.lower key, cell)
  | (.number _, _) => none

/-- The cells of a row that can be found, with their names in lower case. -/
def record (row : Row) : List (Text × Cell) :=
  row.filterMap recordCell?

/-- No two names of cells that can be found differ only in case. -/
def HasDistinctNames (row : Row) : Prop :=
  (row.record.map Prod.fst).Nodup

instance (row : Row) : Decidable row.HasDistinctNames :=
  inferInstanceAs (Decidable (List.Nodup _))

section
variable {row other : Row} {name folded : Text} {cell : Cell}

theorem mem_record :
    (folded, cell) ∈ row.record ↔
      ∃ key, (.name key, cell) ∈ row ∧ cell.isNull = false ∧ Text.lower key = folded := by
  rw [record, List.mem_filterMap]
  constructor
  · rintro ⟨⟨key, _⟩, member, shown⟩
    cases key with
    | number n => cases shown
    | name key =>
        rw [recordCell?, Option.ite_none_left_eq_some] at shown
        obtain ⟨present, shown⟩ := shown
        cases shown
        exact ⟨key, member, by simpa using present, rfl⟩
  · rintro ⟨key, member, present, rfl⟩
    exact ⟨_, member, by simp [recordCell?, present]⟩

/-! ## Looking up -/

/-- What a name finds stands in the record under that name. -/
theorem mem_record_of_find?
    (found : row.find? name = some cell) :
    (Text.lower name, cell) ∈ row.record := by
  rw [mem_record]
  unfold find? at found
  dsimp only at found
  split at found
  · rename_i entry exact
    cases found
    have member := List.mem_filter.1 (List.mem_of_find?_eq_some exact)
    have key : entry.1 = .name name := by simpa using List.find?_some exact
    exact ⟨name, by rw [← key]; exact member.1, by simpa using member.2, rfl⟩
  · obtain ⟨⟨key, _⟩, caseless, rfl⟩ := Option.map_eq_some_iff.1 found
    have member := List.mem_filter.1 (List.mem_of_find?_eq_some caseless)
    have same := List.find?_some caseless
    cases key with
    | number n => cases same
    | name key => exact ⟨key, member.1, by simpa using member.2, eq_of_beq same⟩

/-- A name that stands in the record finds something. -/
theorem find?_ne_none
    (member : (Text.lower name, cell) ∈ row.record) :
    row.find? name ≠ none := by
  obtain ⟨key, member, present, same⟩ := mem_record.1 member
  unfold find?
  dsimp only
  split
  · simp
  · rw [Ne, Option.map_eq_none_iff, List.find?_eq_none]
    intro absent
    apply absent (.name key, cell)
    · rw [List.mem_filter]
      exact ⟨member, by simp [present]⟩
    · simp [matchesName, same]

/-- A column answers to a name, in any case of its letters, and is not null. -/
def HasValue
    (row : Row)
    (name : Text) : Prop :=
  ∃ key cell, (.name key, cell) ∈ row ∧ cell ≠ .null ∧ Text.lower key = Text.lower name

theorem hasValue_iff_mem_record :
    row.HasValue name ↔ ∃ cell, (Text.lower name, cell) ∈ row.record := by
  simp only [HasValue, mem_record, Cell.isNull_eq_false_iff]
  exact exists_comm

/-- A name finds nothing exactly if no column with a value answers to it. -/
theorem find?_eq_none_iff :
    row.find? name = none ↔ ¬ row.HasValue name := by
  rw [hasValue_iff_mem_record, not_exists]
  constructor
  · intro missing cell member
    exact find?_ne_none member missing
  · intro missing
    by_contra found
    obtain ⟨cell, found⟩ := Option.ne_none_iff_exists'.1 found
    exact missing cell (mem_record_of_find? found)

/-- With distinct names a name finds exactly the cell of the record. -/
theorem find?_eq_some_iff
    (distinct : row.HasDistinctNames) :
    row.find? name = some cell ↔ (Text.lower name, cell) ∈ row.record := by
  refine ⟨mem_record_of_find?, ?_⟩
  intro member
  obtain ⟨found, here⟩ := Option.ne_none_iff_exists'.1 (find?_ne_none member)
  have pair := List.inj_on_of_nodup_map distinct (mem_record_of_find? here) member rfl
  cases pair
  exact here

/-- Rows with the same record in any order find the same texts. -/
theorem column?_eq_of_perm
    (distinct : row.HasDistinctNames)
    (perm : row.record.Perm other.record)
    (name : Text) :
    row.column? name = other.column? name := by
  have otherDistinct : other.HasDistinctNames := (perm.map Prod.fst).nodup distinct
  have same : row.find? name = other.find? name := by
    ext cell
    rw [find?_eq_some_iff distinct, find?_eq_some_iff otherDistinct, perm.mem_iff]
  rw [column?, column?, same]

end

/-! ## Changes that no name finds -/

/-- A cell that no name finds: a null cell, or one under a key that is no name. -/
def Unseen (entry : ColumnKey × Cell) : Prop :=
  entry.2.isNull = true ∨ ∃ n, entry.1 = .number n

theorem recordCell?_eq_none
    {entry : ColumnKey × Cell}
    (unseen : Unseen entry) :
    recordCell? entry = none := by
  obtain ⟨key, cell⟩ := entry
  cases key with
  | number n => rfl
  | name key =>
      rcases unseen with null | ⟨n, impossible⟩
      · exact if_pos null
      · cases impossible

/-- One change of a row that leaves its record as it is. -/
inductive Rearranged : Row → Row → Prop where
  /-- The cells change places. -/
  | reorder
      {row other : Row}
      (perm : row.Perm other) :
      Rearranged row other
  /-- A name changes case. -/
  | recase
      {key other : Text}
      (front behind : Row)
      (cell : Cell)
      (same : Text.lower key = Text.lower other) :
      Rearranged (front ++ (.name key, cell) :: behind) (front ++ (.name other, cell) :: behind)
  /-- A cell that cannot be found is added. -/
  | add
      {entry : ColumnKey × Cell}
      (front behind : Row)
      (unseen : Unseen entry) :
      Rearranged (front ++ behind) (front ++ entry :: behind)
  /-- A cell that cannot be found is removed. -/
  | remove
      {entry : ColumnKey × Cell}
      (front behind : Row)
      (unseen : Unseen entry) :
      Rearranged (front ++ entry :: behind) (front ++ behind)

/-- A change keeps the record but for the order. -/
theorem Rearranged.record_perm
    {row other : Row}
    (change : Rearranged row other) :
    row.record.Perm other.record := by
  cases change with
  | reorder perm => exact perm.filterMap recordCell?
  | @recase key other front behind cell same =>
      have kept : recordCell? (.name key, cell) = recordCell? (.name other, cell) := by
        rw [recordCell?, recordCell?, same]
      rw [record, record, List.filterMap_append, List.filterMap_append, List.filterMap_cons,
        List.filterMap_cons, kept]
  | add front behind unseen => simp [record, recordCell?_eq_none unseen]
  | remove front behind unseen => simp [record, recordCell?_eq_none unseen]

/-- So do any number of changes. -/
theorem record_perm_of_rearranged
    {row other : Row}
    (changes : Relation.ReflTransGen Rearranged row other) :
    row.record.Perm other.record := by
  induction changes with
  | refl => exact List.Perm.refl _
  | tail _ change inductionHypothesis => exact inductionHypothesis.trans change.record_perm

/-- A row finds the same texts after any number of changes. -/
theorem column?_eq_of_rearranged
    {row other : Row}
    (distinct : row.HasDistinctNames)
    (changes : Relation.ReflTransGen Rearranged row other)
    (name : Text) :
    row.column? name = other.column? name :=
  column?_eq_of_perm distinct (record_perm_of_rearranged changes) name

end Row
end LabelPress
