import LabelPress.Schema.Issue
import LabelPress.Workspace.FileTree
import LabelPress.Yaml.Cursor

/-!
# Faults of settings

The ways in which settings can fail to be made or loaded.
-/

namespace LabelPress

/-- Why settings could not be made or loaded. -/
inductive SettingsFault where
  /-- The file cannot be read. -/
  | file (fault : FileFault)
  /-- The text of the file is no document. -/
  | yaml (fault : Yaml.Fault)
  /-- A value is not the mapping that it has to be. -/
  | notMapping
  /-- A field has a name that is not a text. -/
  | nameNotText
  /-- The environment variable of a whole section is no document. -/
  | badVariable
  /-- A field has a wrong value. -/
  | issues (issues : List Issue)

end LabelPress
