import LabelPress.Settings.Load
import LabelPress.Workspace.Load

/-!
# Workspaces

The surroundings of a running program: the files of its folder, the environment and the
settings that it has loaded.  Settings are loaded once and kept until they are loaded
again; a load that fails changes nothing.
-/

namespace LabelPress

/-- The files, the environment and the settings that are loaded. -/
structure Workspace where
  /-- The files of the folder. -/
  files : FileTree
  /-- The environment. -/
  environment : Environment
  /-- The settings, once they are loaded. -/
  held : Option Settings

namespace Workspace

/-- A workspace without files, variables and settings. -/
def empty : Workspace :=
  ⟨.empty, [], none⟩

/-- The path of the settings file. -/
def settingsPath : Path :=
  ⟨[], ["documents".toList, "label_runtime.yaml".toList]⟩

/-- The path of the settings file where the first one is missing. -/
def fallbackPath : Path :=
  ⟨[], ["config".toList, "label_runtime.yaml".toList]⟩

/-- The path from which settings are loaded for the first time. -/
def defaultPath (workspace : Workspace) : Path :=
  if !workspace.files.holds settingsPath && workspace.files.holds fallbackPath then
    fallbackPath
  else
    settingsPath

/-- The settings of a file. -/
def loadSettings
    [Yaml.Reader]
    (workspace : Workspace)
    (path : Path) : Except SettingsFault Settings :=
  Settings.load workspace.files workspace.environment path

/-- Load settings and keep them. -/
def hold
    [Yaml.Reader]
    (workspace : Workspace)
    (path : Path) : Except SettingsFault (Settings × Workspace) := do
  let settings ← workspace.loadSettings path
  return (settings, { workspace with held := some settings })

/-- The settings that are kept, or else those of the default file. -/
def settings
    [Yaml.Reader]
    (workspace : Workspace) : Except SettingsFault (Settings × Workspace) :=
  match workspace.held with
  | some settings => .ok (settings, workspace)
  | none => workspace.hold workspace.defaultPath

/-- Load settings again, from the settings file if no other path is given. -/
def reload
    [Yaml.Reader]
    (workspace : Workspace)
    (path : Option Text) : Except SettingsFault (Settings × Workspace) :=
  match path with
  | none => workspace.hold settingsPath
  | some text => workspace.hold (if text.isEmpty then settingsPath else Path.ofText text)

/-- The settings with the sections of a mapping. -/
def settingsOf
    (workspace : Workspace)
    (entries : Document.Entries) : Except SettingsFault Settings :=
  Settings.inEnvironment workspace.environment entries

/-- Settings that are kept are found again. -/
theorem settings_of_held
    [Yaml.Reader]
    (workspace : Workspace)
    (settings : Settings) :
    ({ workspace with held := some settings } : Workspace).settings =
      .ok (settings, { workspace with held := some settings }) :=
  rfl

end Workspace
end LabelPress
