import LabelPress.Proofs.Document.Entries
import LabelPress.Proofs.Settings.Environment
import Mathlib

/-!
# Empty levels of a settings file

A settings file whose whole document, mapping of sections or section is empty, such as a key
whose content is commented out.  Main statement: an empty document and an empty section give
the same settings or the same fault as the file without them, but an empty mapping of
sections is a fault of its own.
-/

namespace LabelPress
namespace Settings

/-- A level of a settings file. -/
inductive Level where
  /-- The whole document. -/
  | document
  /-- The mapping of sections. -/
  | options
  /-- The value under a name in the mapping of sections. -/
  | part (name : Text)

namespace Level

/-- The name of the mapping of sections. -/
def optionsName : Text :=
  "runtime_options".toList

/-- The entries of a document whose mapping of sections, if there is one, is changed. -/
def inOptions
    (change : Document.Entries → Document.Entries)
    (entries : Document.Entries) : Document.Entries :=
  match Document.get? entries optionsName with
  | some (.mapping inner) =>
      Document.put entries (.text optionsName) (.mapping (change inner))
  | _ => entries

/-- The document with null at a level. -/
def emptied (entries : Document.Entries) : Level → Document
  | .document => .null
  | .options => .mapping (Document.put entries (.text optionsName) .null)
  | .part name => .mapping (inOptions (Document.put · (.text name) .null) entries)

/-- The document without the key of a level; the whole document is left with no key at all. -/
def leftOut (entries : Document.Entries) : Level → Document
  | .document => .mapping []
  | .options => .mapping (Document.without entries optionsName)
  | .part name => .mapping (inOptions (Document.without · name) entries)

end Level

variable {environment : Environment} {entries sections others : Document.Entries}
  {document other data otherData : Document}

theorem sectionsOf_mapping :
    sectionsOf (.mapping entries) =
      .ok ((Document.get? entries Level.optionsName).getD (.mapping [])) :=
  rfl

/-- A section that is missing is read like one that is null. -/
theorem sectionValues_congr
    {name : Text}
    (same : (Document.get? sections name).getD .null = (Document.get? others name).getD .null) :
    sectionValues (.mapping sections) name = sectionValues (.mapping others) name := by
  rw [sectionValues, sectionValues, same]

theorem ofDocument_congr
    (found : sectionsOf document = .ok data)
    (otherFound : sectionsOf other = .ok otherData)
    (same : ∀ name, sectionValues data name = sectionValues otherData name) :
    ofDocument environment document = ofDocument environment other := by
  simp only [ofDocument, found, otherFound, loadSection, same, bind, Except.bind]

/-- An empty section says nothing. -/
theorem ofDocument_part (name : Text) :
    ofDocument environment ((Level.part name).emptied entries) =
      ofDocument environment ((Level.part name).leftOut entries) := by
  rw [Level.emptied, Level.leftOut, Level.inOptions, Level.inOptions]
  split
  · have replaced (inner : Document.Entries) :
        sectionsOf (.mapping (Document.put entries (.text Level.optionsName) (.mapping inner))) =
          .ok (.mapping inner) := by
      rw [sectionsOf_mapping, Document.get?_put, if_pos rfl, Option.getD_some]
    apply ofDocument_congr (replaced _) (replaced _)
    intro other
    apply sectionValues_congr
    rw [Document.get?_put, Document.get?_without]
    split <;> rfl
  · -- There is no mapping of sections that could hold the section.
    rfl

/-- Null is no mapping of sections. -/
theorem ofDocument_emptied_options :
    ofDocument environment (Level.options.emptied entries) = .error .notMapping := by
  have found : sectionsOf (Level.options.emptied entries) = .ok .null := by
    rw [Level.emptied, sectionsOf_mapping, Document.get?_put, if_pos rfl, Option.getD_some]
  rw [ofDocument, found]
  rfl

/-- No mapping of sections is one without sections. -/
theorem ofDocument_leftOut_options :
    ofDocument environment (Level.options.leftOut entries) =
      ofDocument environment (.mapping []) := by
  have found : sectionsOf (Level.options.leftOut entries) = .ok (.mapping []) := by
    rw [Level.leftOut, sectionsOf_mapping, Document.get?_without, if_pos rfl, Option.getD_none]
  exact ofDocument_congr found rfl fun _ => rfl

theorem ofDocument_nil_ne_notMapping :
    ofDocument environment (.mapping []) ≠ .error .notMapping := by
  have initial : ofDocument [] (.mapping []) = .ok .initial := rfl
  rw [ofDocument_eq_bind, initial]
  intro failed
  rcases bind_eq_error.1 failed with impossible | ⟨settings, -, failed⟩
  · cases impossible
  rcases bind_eq_error.1 failed with failed | ⟨sections, -, impossible⟩
  · cases (Environment.sections_eq_error_iff.1 failed).1
  · cases impossible

/--
One file has null at a level, and another one lacks the key of this level.  They give the
same settings or the same fault, in every environment, exactly if the level is not the
mapping of sections; null there is no mapping, whatever else the file says.
-/
theorem load_emptied_eq_iff
    [Yaml.Reader]
    {files others : FileTree}
    {path otherPath : Path}
    {level : Level}
    (empty : files.HasDocument path (level.emptied entries))
    (without : others.HasDocument otherPath (level.leftOut entries)) :
    (load files environment path = load others environment otherPath ↔ level ≠ .options) ∧
      (level = .options → load files environment path = .error .notMapping) := by
  rw [load_of_hasDocument empty, load_of_hasDocument without]
  cases level with
  | document => exact ⟨iff_of_true rfl nofun, nofun⟩
  | part name => exact ⟨iff_of_true (ofDocument_part name) nofun, nofun⟩
  | options =>
      rw [ofDocument_emptied_options, ofDocument_leftOut_options]
      refine ⟨iff_of_false ?_ fun other => other rfl, fun _ => rfl⟩
      exact fun same => ofDocument_nil_ne_notMapping same.symm

/-! ## Files with empty levels -/

/-- Sections of which one has a field in a comment only. -/
def commentedOut : Text :=
  "runtime_options:\n batch: # max_rows: 5\n logging: {log_level: DEBUG}".toList

/-- Sections without the one that is commented out. -/
def withoutBatch : Text :=
  "runtime_options: {logging: {log_level: DEBUG}}".toList

/-- The entries of a section that sets the level. -/
def debugLogging : Document.Entries :=
  [(.text "logging".toList, .mapping [(.text "log_level".toList, .text "DEBUG".toList)])]

theorem ofYaml_commentedOut :
    Document.ofYaml commentedOut =
      .ok (.mapping
        [(.text Level.optionsName, .mapping ((.text "batch".toList, .null) :: debugLogging))]) := by
  have scanned :
      Yaml.Token.scan commentedOut =
        [.blockMapping, .key, .scalar Level.optionsName true, .value,
          .blockMapping, .key, .scalar "batch".toList true, .value,
          .key, .scalar "logging".toList true, .value,
          .flowMapping, .key, .scalar "log_level".toList true, .value,
          .scalar "DEBUG".toList true, .flowMappingEnd, .blockEnd, .blockEnd, .streamEnd] := by
    cbv
  rw [Document.ofYaml, scanned]
  simp [Yaml.Node.ofTokens, Yaml.Node.take, Yaml.Node.takeBlockPairs, Yaml.Node.takeFlowPairs,
    Yaml.Node.takeOr, Yaml.Node.takeValue, Yaml.Node.afterComma, Yaml.Node.endOfDocument,
    Yaml.Node.blockPairEnds, bind, Except.bind, pure, Except.pure]
  rfl

theorem ofYaml_withoutBatch :
    Document.ofYaml withoutBatch =
      .ok (.mapping [(.text Level.optionsName, .mapping debugLogging)]) := by
  have scanned :
      Yaml.Token.scan withoutBatch =
        [.blockMapping, .key, .scalar Level.optionsName true, .value,
          .flowMapping, .key, .scalar "logging".toList true, .value,
          .flowMapping, .key, .scalar "log_level".toList true, .value,
          .scalar "DEBUG".toList true, .flowMappingEnd, .flowMappingEnd, .blockEnd,
          .streamEnd] := by
    cbv
  rw [Document.ofYaml, scanned]
  simp [Yaml.Node.ofTokens, Yaml.Node.take, Yaml.Node.takeBlockPairs, Yaml.Node.takeFlowPairs,
    Yaml.Node.takeOr, Yaml.Node.takeValue, Yaml.Node.afterComma, Yaml.Node.endOfDocument,
    Yaml.Node.blockPairEnds, bind, Except.bind, pure, Except.pure]
  rfl

theorem load_emptied_eq_iff_commented_out :
    let path := Path.ofText "r".toList
    let files : FileTree := ⟨[(path.parts, commentedOut)], []⟩
    let others : FileTree := ⟨[(path.parts, withoutBatch)], []⟩
    let level := Level.part "batch".toList
    let batch : Document := .mapping [(.text "max_rows".toList, .integer 5)]
    let entries : Document.Entries :=
      [(.text Level.optionsName, .mapping ((.text "batch".toList, batch) :: debugLogging))]
    files.HasDocument path (level.emptied entries) ∧
      others.HasDocument path (level.leftOut entries) ∧
        load files [] path = load others [] path ∧
          load files [] path = .ok (Key.level.set "DEBUG".toList .initial) := by
  intro path files others level batch entries
  have empty : files.HasDocument path (level.emptied entries) := ⟨_, rfl, ofYaml_commentedOut⟩
  have without : others.HasDocument path (level.leftOut entries) := ⟨_, rfl, ofYaml_withoutBatch⟩
  have same : load files [] path = load others [] path :=
    (load_emptied_eq_iff empty without).1.2 nofun
  refine ⟨empty, without, same, ?_⟩
  rw [same, load_of_hasDocument without]
  rfl

theorem ofYaml_onlyOptions :
    Document.ofYaml "runtime_options:".toList =
      .ok (.mapping [(.text Level.optionsName, .null)]) := by
  have scanned :
      Yaml.Token.scan "runtime_options:".toList =
        [.blockMapping, .key, .scalar Level.optionsName true, .value, .blockEnd, .streamEnd] := by
    cbv
  rw [Document.ofYaml, scanned]
  simp [Yaml.Node.ofTokens, Yaml.Node.take, Yaml.Node.takeBlockPairs, Yaml.Node.takeOr,
    Yaml.Node.takeValue, Yaml.Node.endOfDocument, Yaml.Node.blockPairEnds, bind, Except.bind,
    pure, Except.pure]
  rfl

theorem ofYaml_braces :
    Document.ofYaml "\x7b\x7d".toList = .ok (.mapping []) := by
  have scanned :
      Yaml.Token.scan "\x7b\x7d".toList = [.flowMapping, .flowMappingEnd, .streamEnd] := by
    cbv
  rw [Document.ofYaml, scanned]
  simp [Yaml.Node.ofTokens, Yaml.Node.take, Yaml.Node.takeFlowPairs, Yaml.Node.endOfDocument,
    bind, Except.bind, pure, Except.pure]
  rfl

/-- A file with the key of the sections and nothing else is refused, an empty mapping is not. -/
theorem load_without_options :
    let path := Path.ofText "r".toList
    let files : FileTree := ⟨[(path.parts, "runtime_options:".toList)], []⟩
    let others : FileTree := ⟨[(path.parts, "\x7b\x7d".toList)], []⟩
    let entries : Document.Entries := [(.text Level.optionsName, .mapping [])]
    files.HasDocument path (Level.options.emptied entries) ∧
      others.HasDocument path (Level.options.leftOut entries) ∧
        load files [] path = .error .notMapping ∧ load others [] path = .ok .initial := by
  intro path files others entries
  have empty : files.HasDocument path (Level.options.emptied entries) :=
    ⟨_, rfl, ofYaml_onlyOptions⟩
  have without : others.HasDocument path (Level.options.leftOut entries) :=
    ⟨_, rfl, ofYaml_braces⟩
  refine ⟨empty, without, ?_, ?_⟩
  · rw [load_of_hasDocument empty, ofDocument_emptied_options]
  · rw [load_of_hasDocument without, ofDocument_leftOut_options]
    rfl

end Settings
end LabelPress
