import LabelPress.Settings.Environment
import LabelPress.Yaml.Value

/-!
# Settings files

A settings file holds the sections under one name.  A field is written as its value or
as a mapping with a default; a mapping without a default says nothing.  The environment
counts only if there is no file, but it has to be in order even if there is one.
-/

namespace LabelPress

namespace Settings

/-- The value that a field of a settings file says. -/
def fieldValue? : Document → Option Document
  | .mapping entries => Document.get? entries "default".toList
  | value => some value

/-- The fields of a section with the values that they say. -/
def sectionValues
    (data : Document)
    (name : Text) : Except SettingsFault Document.Entries :=
  match data with
  | .mapping sections =>
      match (Document.get? sections name).getD .null with
      | .mapping fields =>
          .ok (fields.filterMap fun field =>
            (fieldValue? field.2).map fun value => (field.1, value))
      | other => if other.isEmpty then .ok [] else .error .notMapping
  | _ => .error .notMapping

/-- One section of a settings file. -/
def loadSection
    {α : Type}
    (data : Document)
    (name : String)
    (check : Document.Entries → Check α) : Except SettingsFault α := do
  let fields ← sectionValues data name.toList
  if Document.hasTextKeys fields then
    (check fields).mapError .issues
  else
    .error .nameNotText

/-- The mapping of sections of a settings file; an empty document has none. -/
def sectionsOf (document : Document) : Except SettingsFault Document :=
  match document with
  | .mapping entries =>
      .ok ((Document.get? entries "runtime_options".toList).getD (.mapping []))
  | other => if other.isEmpty then .ok (.mapping []) else .error .notMapping

/-- The settings of a document. -/
def ofDocument
    (environment : Environment)
    (document : Document) : Except SettingsFault Settings := do
  let data ← sectionsOf document
  let render ← loadSection data "render" RenderSettings.ofEntries
  let batch ← loadSection data "batch" BatchSettings.ofEntries
  let logging ← loadSection data "logging" LoggingSettings.ofEntries
  let _ ← environment.sections
  return ⟨render, batch, logging⟩

/-- The settings of a file, or those of the environment if there is no file. -/
def load
    [Yaml.Reader]
    (files : FileTree)
    (environment : Environment)
    (path : Path) : Except SettingsFault Settings :=
  if files.isOverlong path then
    .error (.file .nameTooLong)
  else if files.holds path then do
    let text ← (files.read path).mapError .file
    let document ← (Yaml.Reader.read text).mapError .yaml
    ofDocument environment document
  else
    inEnvironment environment []

end Settings
end LabelPress
