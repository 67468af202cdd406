import LabelPress.Proofs.Workspace.FileTree
import LabelPress.Workspace.Load

/-!
# Faults of loading

Which faults of loading a design or rows are reported to the user.  Main statements: a load
fails without a report exactly if a folder is at the path, if a name on the way to it is too
long, if the reader of YAML fails by no fault of YAML, or if the file has a name that a design
or a row cannot take.  They hold for every reader.
-/

namespace LabelPress

/-- A load failed with a fault that has no message for the user. -/
def Unreported
    {α : Type}
    (loaded : Except LoadFault α) : Prop :=
  ∃ fault, loaded = .error fault ∧ fault.message? = none

section
variable {α β : Type}

@[simp] theorem not_unreported_ok (value : α) :
    ¬ Unreported (.ok value : Except LoadFault α) := by
  rintro ⟨fault, failed, -⟩
  cases failed

@[simp] theorem unreported_error
    {fault : LoadFault} :
    Unreported (.error fault : Except LoadFault α) ↔ fault.message? = none := by
  simp [Unreported]

theorem unreported_bind
    {first : Except LoadFault α}
    {next : α → Except LoadFault β} :
    Unreported (first >>= next) ↔
      Unreported first ∨ ∃ value, first = .ok value ∧ Unreported (next value) := by
  cases first with
  | error fault => simp [bind, Except.bind]
  | ok value => simp [bind, Except.bind]

end

theorem LoadFault.message?_ofYaml
    {path : Path}
    {fault : Yaml.Fault} :
    (LoadFault.ofYaml path fault).message? = none ↔ fault.isYaml = false := by
  unfold LoadFault.ofYaml
  cases fault.isYaml <;> simp [LoadFault.message?]

section
variable [Yaml.Reader]

namespace FileTree

/-- A path leads to a file with a document. -/
def HasDocument
    (files : FileTree)
    (path : Path)
    (document : Document) : Prop :=
  ∃ text, files.read path = .ok text ∧ Yaml.Reader.read text = .ok document

/-- What no loader reports: a folder, a name that is too long, a failure of the reader. -/
inductive Illegible
    (files : FileTree)
    (path : Path) : Prop where
  | folder (found : files.read path = .error .isFolder)
  | overlong (refused : files.place path = .error .nameTooLong)
  | reader
      (text : Text)
      (fault : Yaml.Fault)
      (found : files.read path = .ok text)
      (failed : Yaml.Reader.read text = .error fault)
      (escapes : fault.isYaml = false)

/-- Of a file, only the text counts. -/
theorem illegible_iff_of_read
    {files : FileTree}
    {path : Path}
    {text : Text}
    (found : files.read path = .ok text) :
    files.Illegible path ↔
      ∃ fault, Yaml.Reader.read text = .error fault ∧ fault.isYaml = false := by
  constructor
  · rintro (folder | refused | ⟨other, fault, again, failed, escapes⟩)
    · cases found.symm.trans folder
    · rw [read, refused] at found
      cases found
    · cases found.symm.trans again
      exact ⟨fault, failed, escapes⟩
  · rintro ⟨fault, failed, escapes⟩
    exact .reader text fault found failed escapes

/-- Where something is expected but nothing is, there is nothing illegible. -/
theorem not_illegible_of_missing
    {files : FileTree}
    {path : Path}
    (reachable : files.isOverlong path = false)
    (absent : files.holds path = false) :
    ¬ files.Illegible path := by
  rintro (found | refused | ⟨text, -, found, -, -⟩)
  · exact Bool.eq_false_iff.1 absent (holds_iff.2 (Or.inl found))
  · exact Bool.eq_false_iff.1 reachable (isOverlong_eq_true.2 refused)
  · exact Bool.eq_false_iff.1 absent (holds_iff.2 (Or.inr ⟨text, found⟩))

end FileTree

open FileTree

variable {files : FileTree} {path : Path}

/-! ## Documents -/

namespace Document

/-- The four ways of loading, by what the path leads to. -/
inductive Loads
    (files : FileTree)
    (path : Path) : Except LoadFault Document → Prop where
  | overlong (refused : files.isOverlong path = true) :
      Loads files path (.error (.file .nameTooLong))
  | missing
      (reachable : files.isOverlong path = false)
      (absent : files.holds path = false) :
      Loads files path (.error (.missing path))
  | folder (folder : files.read path = .error .isFolder) :
      Loads files path (.error (.file .isFolder))
  | file
      {text : Text}
      (found : files.read path = .ok text) :
      Loads files path ((Yaml.Reader.read text).mapError (.ofYaml path))

theorem loads
    (files : FileTree)
    (path : Path) :
    Loads files path (Document.load files path) := by
  unfold Document.load
  split
  · rename_i refused
    exact .overlong refused
  · rename_i reachable
    split
    · rename_i present
      rcases holds_iff.1 present with folder | ⟨text, found⟩
      · rw [folder]
        exact .folder folder
      · rw [found]
        exact .file found
    · rename_i absent
      exact .missing (Bool.eq_false_iff.2 reachable) (Bool.eq_false_iff.2 absent)

theorem load_of_text
    {text : Text}
    (found : files.read path = .ok text) :
    Document.load files path = (Yaml.Reader.read text).mapError (LoadFault.ofYaml path) := by
  have present := holds_iff.2 (Or.inr ⟨text, found⟩)
  rw [Document.load, isOverlong_of_holds present, if_neg Bool.false_ne_true, if_pos present,
    found]
  rfl

theorem load_eq_ok {document : Document} :
    Document.load files path = .ok document ↔ files.HasDocument path document := by
  constructor
  · intro loaded
    have ways := loads files path
    rw [loaded] at ways
    generalize same : (Except.ok document : Except LoadFault Document) = outcome at ways
    cases ways with
    | file found => exact ⟨_, found, mapError_eq_ok.1 same.symm⟩
    | _ => cases same
  · rintro ⟨text, found, held⟩
    rw [load_of_text found, held]
    rfl

theorem unreported_load :
    Unreported (Document.load files path) ↔ files.Illegible path := by
  have ways := loads files path
  generalize Document.load files path = loaded at ways ⊢
  cases ways with
  | overlong refused =>
      rw [unreported_error]
      exact iff_of_true rfl (.overlong (isOverlong_eq_true.1 refused))
  | missing reachable absent =>
      rw [unreported_error]
      exact iff_of_false nofun (not_illegible_of_missing reachable absent)
  | folder folder =>
      rw [unreported_error]
      exact iff_of_true rfl (.folder folder)
  | @file text found =>
      rw [illegible_iff_of_read found]
      cases Yaml.Reader.read text with
      | ok document => simp
      | error fault =>
          rw [mapError_error, unreported_error, LoadFault.message?_ofYaml]
          simp

/-- What is made of a document fails without a report at bad parts of one shape of it. -/
theorem unreported_load_bind
    {α β : Type}
    {next : Document → Except LoadFault α}
    {shape : β → Document}
    {bad : β → Prop}
    (unreported : ∀ document,
      Unreported (next document) ↔ ∃ part, document = shape part ∧ bad part) :
    Unreported (Document.load files path >>= next) ↔
      files.Illegible path ∨ ∃ part, files.HasDocument path (shape part) ∧ bad part := by
  simp only [unreported_bind, unreported_load, load_eq_ok, unreported]
  apply or_congr_right
  constructor
  · rintro ⟨_, loaded, part, rfl, isBad⟩
    exact ⟨part, loaded, isBad⟩
  · rintro ⟨part, loaded, isBad⟩
    exact ⟨_, loaded, part, rfl, isBad⟩

end Document
end

/-! ## Designs -/

theorem Document.hasTextKeys_eq_false
    {entries : Document.Entries} :
    Document.hasTextKeys entries = false ↔ ∃ entry ∈ entries, ∀ name, entry.1 ≠ .text name := by
  rw [Document.hasTextKeys, List.all_eq_false]
  apply exists_congr
  rintro ⟨key, value⟩
  cases key <;> simp

namespace Design

/-- The design that the document of a file holds. -/
def ofDocument (path : Path) : Document → Except LoadFault Design
  | .mapping entries =>
      if Document.hasTextKeys (unwrap entries) then
        (Design.ofEntries (unwrap entries)).mapError (.invalidDesign path)
      else
        .error .nameNotText
  | _ => .error (.notDesign path)

theorem unreported_ofDocument {document : Document} :
    Unreported (ofDocument path document) ↔
      ∃ entries, document = .mapping entries ∧
        ∃ entry ∈ unwrap entries, ∀ name, entry.1 ≠ .text name := by
  simp only [← Document.hasTextKeys_eq_false]
  cases document with
  | mapping entries =>
      cases names : Document.hasTextKeys (unwrap entries) with
      | false => simp [ofDocument, names, LoadFault.message?]
      | true =>
          simp only [ofDocument, names, if_true]
          cases Design.ofEntries (unwrap entries) <;> simp [names, LoadFault.message?]
  | _ => simp [ofDocument, LoadFault.message?]

variable [Yaml.Reader]

theorem load_eq_bind :
    Design.load files path = Document.load files path >>= ofDocument path := by
  apply bind_congr
  intro document
  cases document <;> rfl

/-- A design fails to load without a report at such a path, or at a name that is no text. -/
theorem unreported_load :
    Unreported (Design.load files path) ↔
      files.Illegible path ∨
        ∃ entries, files.HasDocument path (.mapping entries) ∧
          ∃ entry ∈ unwrap entries, ∀ name, entry.1 ≠ .text name := by
  rw [load_eq_bind]
  exact Document.unreported_load_bind fun _ => unreported_ofDocument

end Design

/-! ## Rows -/

/-- The key is an integer of more digits than a text can have. -/
def Document.IsLongInteger (key : Document) : Prop :=
  ∃ value, key = .integer value ∧ Numeral.digitLimit < (Numeral.ofNat value.natAbs).length

namespace Record

theorem succeeds_keyText {key : Document} :
    Succeeds (keyText key) ↔ ¬ key.IsLongInteger := by
  cases key with
  | integer value =>
      by_cases long : Numeral.digitLimit < (Numeral.ofNat value.natAbs).length
      · simp [keyText, Numeral.write, Document.IsLongInteger, long]
      · simp [keyText, Numeral.write, Document.IsLongInteger, long]
  | _ => simp [keyText, Document.IsLongInteger]

theorem succeeds_ofEntries {entries : Document.Entries} :
    Succeeds (ofEntries entries) ↔ ∀ entry ∈ entries, ¬ entry.1.IsLongInteger := by
  suffices general : ∀ record : Record,
      Succeeds
          (entries.foldlM
            (fun record entry => do return record.put (← keyText entry.1) entry.2) record) ↔
        ∀ entry ∈ entries, ¬ entry.1.IsLongInteger from general []
  induction entries with
  | nil => simp
  | cons entry others inductionHypothesis =>
      intro record
      rw [List.foldlM_cons, Succeeds.bind_iff_and inductionHypothesis, Succeeds.bind_pure_iff,
        succeeds_keyText, List.forall_mem_cons]

theorem mappings?_eq_some
    {items : List Document}
    {rows : List Document.Entries} :
    mappings? items = some rows ↔ items = rows.map .mapping := by
  induction items generalizing rows with
  | nil => cases rows <;> simp [mappings?]
  | cons item others inductionHypothesis =>
      cases item with
      | mapping entries =>
          rw [mappings?, Option.map_eq_some_iff]
          simp only [inductionHypothesis]
          cases rows with
          | nil => simp
          | cons row rows => simp [and_assoc, and_comm]
      | _ => cases rows <;> simp [mappings?]

/-- The rows that the document of a file holds. -/
def ofDocument (path : Path) : Document → Except LoadFault (List Record)
  | .null => .ok []
  | .sequence items =>
      match mappings? items with
      | some rows => (rows.mapM ofEntries).mapError .key
      | none => .error (.notRows path)
  | _ => .error (.notRows path)

theorem unreported_ofDocument {document : Document} :
    Unreported (ofDocument path document) ↔
      ∃ rows : List Document.Entries, document = .sequence (rows.map .mapping) ∧
        ∃ row ∈ rows, ∃ entry ∈ row, entry.1.IsLongInteger := by
  cases document with
  | sequence items =>
      simp only [ofDocument, Document.sequence.injEq, ← mappings?_eq_some]
      cases found : mappings? items with
      | none => simp [LoadFault.message?]
      | some rows =>
          have failed :
              Unreported ((rows.mapM ofEntries).mapError .key) ↔
                ¬ Succeeds (rows.mapM ofEntries) := by
            cases rows.mapM ofEntries <;> simp [LoadFault.message?]
          simp [failed, Succeeds.mapM_iff, succeeds_ofEntries]
  | _ => simp [ofDocument, LoadFault.message?]

variable [Yaml.Reader]

theorem load_eq_bind :
    Record.load files path = Document.load files path >>= ofDocument path := by
  apply bind_congr
  intro document
  cases document <;> rfl

/-- Rows fail to load without a report at such a path, or at a key that has no text. -/
theorem unreported_load :
    Unreported (Record.load files path) ↔
      files.Illegible path ∨
        ∃ rows : List Document.Entries, files.HasDocument path (.sequence (rows.map .mapping)) ∧
          ∃ row ∈ rows, ∃ entry ∈ row, entry.1.IsLongInteger := by
  rw [load_eq_bind]
  exact Document.unreported_load_bind fun _ => unreported_ofDocument

end Record
end LabelPress
