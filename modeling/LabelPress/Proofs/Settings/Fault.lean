import LabelPress.Proofs.Schema.Check
import LabelPress.Proofs.Schema.Issue
import LabelPress.Proofs.Settings.Environment

/-!
# Faults of settings files and of the environment

What can be wrong with a settings file and what with an environment.  Main statement: these
are never the same fault.  Where both have issues, those of a file are in the fields of a
section, and those of an environment are in the sections.
-/

namespace LabelPress

open Check

namespace Settings

/-- The names of the fields of all sections. -/
def fieldNames : List Text :=
  layout.flatMap Prod.snd

theorem fieldNames_disjoint_sectionNames :
    ∀ name ∈ fieldNames, name ∉ sectionNames := by
  decide

end Settings

/-! ## The issues of sections -/

theorem RenderSettings.inFields_ofEntries (entries : Document.Entries) :
    (ofEntries entries).InFields Settings.fieldNames := by
  apply InFields.andThen
  · apply InFields.andThen
    · apply InFields.andThen (.ok _)
      exact .optional (by decide) integer_ne_error_nil
    · exact .optional (by decide) real_ne_error_nil
  · exact .optional (by decide) real_ne_error_nil

theorem BatchSettings.inFields_ofEntries (entries : Document.Entries) :
    (ofEntries entries).InFields Settings.fieldNames := by
  apply InFields.andThen
  · apply InFields.andThen (.ok _)
    exact .optional (by decide) (atLeast_ne_error_nil integer_ne_error_nil)
  · exact .optional (by decide) (atLeast_ne_error_nil integer_ne_error_nil)

theorem LoggingSettings.inFields_ofEntries (entries : Document.Entries) :
    (ofEntries entries).InFields Settings.fieldNames := by
  apply InFields.andThen (.ok _)
  exact .optional (by decide) text_ne_error_nil

namespace Settings

variable {entries : Document.Entries}

theorem inFields_checkSection
    {α : Type}
    {name : String}
    {check : Document.Entries → Check α}
    {names : List Text}
    (member : name.toList ∈ sectionNames)
    (located : ∀ fields, (check fields).InFields names) :
    (checkSection entries name check).InFields sectionNames := by
  unfold checkSection
  split
  · exact .within member (located []).ne_error_nil
  · exact .within member (located _).ne_error_nil
  · exact .within member reject_ne_error_nil

/-- The names of the sections are those of the entries. -/
def NamesSections (entries : Document.Entries) : Prop :=
  ∀ entry ∈ entries, ∃ name ∈ sectionNames, entry.1 = .text name

theorem checkNoExtra_eq_ok (named : NamesSections entries) :
    checkNoExtra entries = .ok () := by
  rw [checkNoExtra]
  apply map_eq_ok.2
  refine ⟨entries.map fun _ => (), all_eq_ok.2 ?_, rfl⟩
  rw [List.map_map]
  apply List.map_congr_left
  intro entry member
  obtain ⟨name, known, same⟩ := named entry member
  rw [same]
  exact if_pos (List.contains_iff_mem.2 known)

theorem inFields_ofEntries (named : NamesSections entries) :
    (ofEntries entries).InFields sectionNames := by
  apply InFields.andThen
  · apply InFields.andThen
    · apply InFields.andThen
      · apply InFields.andThen (.ok _)
        exact inFields_checkSection (by decide) RenderSettings.inFields_ofEntries
      · exact inFields_checkSection (by decide) BatchSettings.inFields_ofEntries
    · exact inFields_checkSection (by decide) LoggingSettings.inFields_ofEntries
  · rw [checkNoExtra_eq_ok named]
    exact .ok ()

end Settings

/-! ## The faults of files and of the environment -/

namespace SettingsFault

/-- The faults of a settings file. -/
inductive OfFile : SettingsFault → Prop where
  /-- The file cannot be read. -/
  | file (fault : FileFault) : OfFile (.file fault)
  /-- The text is no document. -/
  | yaml (fault : Yaml.Fault) : OfFile (.yaml fault)
  /-- A value is no mapping. -/
  | notMapping : OfFile .notMapping
  /-- A field has no name. -/
  | nameNotText : OfFile .nameNotText
  /-- There are issues in the fields of a section. -/
  | issues
      {issues : List Issue}
      (located : Issue.InFields Settings.fieldNames issues) : OfFile (.issues issues)

/-- The faults of an environment. -/
inductive OfEnvironment : SettingsFault → Prop where
  /-- The variable of a whole section is no document. -/
  | badVariable : OfEnvironment .badVariable
  /-- There are issues in the sections. -/
  | issues
      {issues : List Issue}
      (located : Issue.InFields Settings.sectionNames issues) : OfEnvironment (.issues issues)

theorem OfFile.not_ofEnvironment
    {fault : SettingsFault}
    (ofFile : fault.OfFile) :
    ¬ fault.OfEnvironment := by
  cases ofFile with
  | issues located =>
      rintro (_ | elsewhere)
      exact located.not_of_disjoint Settings.fieldNames_disjoint_sectionNames elsewhere
  | _ => exact nofun

end SettingsFault

namespace Settings

variable {files : FileTree} {environment : Environment} {path : Path} {entries : Document.Entries}
  {document : Document} {fault : SettingsFault}

theorem ofFile_of_loadSection
    {α : Type}
    {name : String}
    {check : Document.Entries → Check α}
    (located : ∀ fields, (check fields).InFields fieldNames)
    (failed : loadSection document name check = .error fault) :
    fault.OfFile := by
  rcases bind_eq_error.1 failed with failed | ⟨fields, -, failed⟩
  · unfold sectionValues at failed
    repeat' split at failed
    all_goals cases failed
    all_goals exact .notMapping
  · split at failed
    · obtain ⟨issues, checked, rfl⟩ := mapError_eq_error.1 failed
      exact .issues ((located fields).of_eq_error checked)
    · cases failed
      exact .nameNotText

theorem ofFile_of_ofDocument (failed : ofDocument [] document = .error fault) :
    fault.OfFile := by
  rcases bind_eq_error.1 failed with failed | ⟨data, -, failed⟩
  · unfold sectionsOf at failed
    repeat' split at failed
    all_goals cases failed
    exact .notMapping
  rcases bind_eq_error.1 failed with failed | ⟨render, -, failed⟩
  · exact ofFile_of_loadSection RenderSettings.inFields_ofEntries failed
  rcases bind_eq_error.1 failed with failed | ⟨batch, -, failed⟩
  · exact ofFile_of_loadSection BatchSettings.inFields_ofEntries failed
  rcases bind_eq_error.1 failed with failed | ⟨logging, -, failed⟩
  · exact ofFile_of_loadSection LoggingSettings.inFields_ofEntries failed
  · cases failed

theorem ofFile_of_load
    [Yaml.Reader]
    (present : files.holds path = true)
    (failed : load files [] path = .error fault) :
    fault.OfFile := by
  rw [load_of_holds present] at failed
  rcases bind_eq_error.1 failed with failed | ⟨text, -, failed⟩
  · obtain ⟨inner, -, rfl⟩ := mapError_eq_error.1 failed
    exact .file inner
  rcases bind_eq_error.1 failed with failed | ⟨document, -, failed⟩
  · obtain ⟨inner, -, rfl⟩ := mapError_eq_error.1 failed
    exact .yaml inner
  · exact ofFile_of_ofDocument failed

theorem namesSections_of_sections (found : environment.sections = .ok entries) :
    NamesSections entries := by
  rw [Environment.sections, bind_eq_ok] at found
  obtain ⟨values, made, same⟩ := found
  cases same
  intro entry member
  have here : some entry ∈ values := by simpa using member
  obtain ⟨⟨name, fields⟩, known, looked⟩ := exists_of_mapM_eq_ok made _ here
  obtain ⟨value, -, same⟩ := bind_eq_ok.1 looked
  obtain ⟨document, -, same⟩ := Option.map_eq_some_iff.1 (Except.ok.inj same)
  exact ⟨name, List.mem_map_of_mem known, same ▸ rfl⟩

theorem ofEnvironment_of_inEnvironment
    (failed : inEnvironment environment [] = .error fault) :
    fault.OfEnvironment := by
  rcases bind_eq_error.1 failed with failed | ⟨entries, found, failed⟩
  · obtain ⟨rfl, -⟩ := Environment.sections_eq_error_iff.1 failed
    exact .badVariable
  · obtain ⟨issues, checked, rfl⟩ := mapError_eq_error.1 failed
    have named := namesSections_of_sections found
    rw [Document.putAllOver] at checked
    exact .issues ((inFields_ofEntries named).of_eq_error checked)

end Settings
end LabelPress
