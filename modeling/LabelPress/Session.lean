import LabelPress.CommandLine.Run

/-!
# Sessions

A program that runs for a while takes one step after the other in its workspace.  A step
may change files and variables, load settings, or use the settings that are kept, which
are loaded if there are none.  A step that fails is answered with its fault, and the next
step is taken all the same.
-/

namespace LabelPress
namespace Session

/-- One step of a session. -/
inductive Step where
  /-- Write a file and make the folders around it. -/
  | write (path : Path) (text : Text)
  /-- Remove a file. -/
  | remove (path : Path)
  /-- Read a file. -/
  | read (path : Path)
  /-- Set an environment variable, or remove it if no value is given. -/
  | setVariable (name : Text) (value : Option Text)
  /-- Make settings from a mapping without keeping them. -/
  | makeSettings (entries : Document.Entries)
  /-- Load settings from a file without keeping them. -/
  | loadSettings (path : Path)
  /-- Ask for the settings that are kept. -/
  | getSettings
  /-- Load settings again and keep them. -/
  | reloadSettings (path : Option Text)
  /-- Ask for the level of logging, by settings from a mapping or by those that are kept. -/
  | logLevel (entries : Option Document.Entries)
  /-- Load a design from a file. -/
  | loadDesign (path : Path)
  /-- Load rows from a file. -/
  | loadRows (path : Path)
  /-- Render a label with the settings that are kept. -/
  | render (design : Design) (row : Row) (options : Option Options)
  /-- Render a batch with the settings that are kept. -/
  | renderBatch (design : Design) (rows : List Row) (options : Option Options)
  /-- Run the command line. -/
  | command (arguments : List Text)

/-- What a step that succeeds gives. -/
inductive Answer where
  /-- Nothing but the change itself. -/
  | done
  /-- The text of a file or of labels. -/
  | text (text : Text)
  /-- Settings. -/
  | settings (settings : Settings)
  /-- The number of a level of logging. -/
  | level (number : Nat)
  /-- A design. -/
  | design (design : Design)
  /-- The rows of a file. -/
  | records (records : List Record)
  /-- What a run of the command line comes to. -/
  | outcome (outcome : CommandLine.Outcome)

/-- Why a step fails. -/
inductive Fault where
  /-- A file cannot be read, written or removed. -/
  | file (fault : FileFault)
  /-- The settings cannot be made or loaded. -/
  | settings (fault : SettingsFault)
  /-- The design or the rows cannot be loaded. -/
  | load (fault : LoadFault)
  /-- The settings name no level for the log. -/
  | logging
  /-- The labels cannot be rendered. -/
  | render (fault : RenderFault)

/-- The answer to a step, and the workspace that it leaves behind. -/
abbrev Result := Except Fault Answer × Workspace

/-- Change the files of a workspace. -/
def changeFiles
    (workspace : Workspace)
    (changed : Except FileFault FileTree) : Result :=
  match changed with
  | .ok files => (.ok .done, { workspace with files := files })
  | .error fault => (.error (.file fault), workspace)

/-- Change or remove an environment variable. -/
def changeVariable
    (environment : Environment)
    (name : Text)
    (value : Option Text) : Environment :=
  match value with
  | some value => environment.set name value
  | none => environment.remove name

/-- Use settings that were loaded; a load that failed leaves the workspace as it is. -/
def useSettings
    (workspace : Workspace)
    (loaded : Except SettingsFault (Settings × Workspace))
    (use : Settings → Except Fault Answer) : Result :=
  match loaded with
  | .ok (settings, next) => (use settings, next)
  | .error fault => (.error (.settings fault), workspace)

/-- Answer with settings that are not kept. -/
def answerSettings (made : Except SettingsFault Settings) : Except Fault Answer :=
  (made.mapError .settings).map .settings

/-- The level at which the log is set up by settings. -/
def answerLevel
    [Channels]
    (settings : Settings) : Except Fault Answer :=
  match settings.logLevel with
  | some number => .ok (.level number)
  | none => if settings.startsLog then .ok .done else .error .logging

/-- Take a step at a moment. -/
def Step.run
    [Yaml.Reader]
    [Pool]
    [Channels]
    (workspace : Workspace)
    (clock : Moment) : Step → Result
  | .write path text => changeFiles workspace (workspace.files.store path text)
  | .remove path => changeFiles workspace (workspace.files.remove path)
  | .read path => (((workspace.files.read path).mapError .file).map .text, workspace)
  | .setVariable name value =>
      let environment := changeVariable workspace.environment name value
      (.ok .done, { workspace with environment := environment })
  | .makeSettings entries => (answerSettings (workspace.settingsOf entries), workspace)
  | .loadSettings path => (answerSettings (workspace.loadSettings path), workspace)
  | .getSettings =>
      useSettings workspace workspace.settings fun settings => .ok (.settings settings)
  | .reloadSettings path =>
      useSettings workspace (workspace.reload path) fun settings => .ok (.settings settings)
  | .logLevel (some entries) =>
      ((workspace.settingsOf entries).mapError .settings >>= answerLevel, workspace)
  | .logLevel none => useSettings workspace workspace.settings answerLevel
  | .loadDesign path =>
      (((Design.load workspace.files path).mapError .load).map .design, workspace)
  | .loadRows path =>
      (((Record.load workspace.files path).mapError .load).map .records, workspace)
  | .render design row options =>
      useSettings workspace workspace.settings fun settings =>
        ((design.render settings clock row (options.getD settings.defaultOptions)).mapError
          .render).map .text
  | .renderBatch design rows options =>
      useSettings workspace workspace.settings fun settings =>
        ((design.runBatch settings clock rows
          (options.getD settings.defaultOptions)).mapError .render).map .text
  | .command arguments =>
      let (outcome, next) := CommandLine.run workspace clock arguments
      (.ok (.outcome outcome), next)

end Session
end LabelPress
