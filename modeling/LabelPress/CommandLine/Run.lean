import LabelPress.Channels
import LabelPress.CommandLine.Arguments
import LabelPress.Label.Pool
import LabelPress.Workspace.Basic

/-!
# Runs of the command line

A run loads the settings, sets up the log, loads the design and the rows, renders one label
for each row and prints the labels or writes them to a file.  Faults of the files and
batches that are too large are reported to the user; every other fault ends the run.
-/

namespace LabelPress
namespace CommandLine

/-- Why a run ended early. -/
inductive Fault where
  /-- The settings could not be loaded. -/
  | settings (fault : SettingsFault)
  /-- The settings name no level for the log. -/
  | logging
  /-- The design or the rows could not be loaded. -/
  | load (fault : LoadFault)
  /-- There are more rows than a batch may have. -/
  | tooManyRows (count : Nat) (limit : Int)
  /-- The labels could not be rendered. -/
  | render (fault : RenderFault)
  /-- The file for the labels could not be opened. -/
  | file (fault : FileFault)
  /-- A text could not be written to the open file or to the standard output. -/
  | undelivered

/-- The message of a fault that is reported to the user. -/
def Fault.message? : Fault → Option Text
  | .load fault => fault.message?
  | .tooManyRows count limit =>
      some ("批量行数".toList ++ Numeral.ofNat count ++ "超过上限".toList ++
        Numeral.ofInt limit)
  | .settings _ => none
  | .logging => none
  | .render _ => none
  | .file _ => none
  | .undelivered => none

/-- What a run failed to do. -/
def Fault.summary : Fault → Text
  | .settings _ => "the settings cannot be loaded\n".toList
  | .logging => "the log cannot be set up\n".toList
  | .load _ => "the design or the rows cannot be loaded\n".toList
  | .tooManyRows _ _ => "the batch is too large\n".toList
  | .render _ => "the labels cannot be rendered\n".toList
  | .file _ => "the labels cannot be written\n".toList
  | .undelivered => "the labels cannot be delivered\n".toList

/-- What a run leaves behind. -/
structure Report where
  /-- The exit code. -/
  code : Nat
  /-- The text on the standard output. -/
  output : Text
  /-- The text on the standard error output. -/
  complaint : Text
  /-- The file that was written. -/
  written : Option (Path × Text)

/-- The result of a command line. -/
inductive Outcome where
  /-- The arguments were not run. -/
  | ended (ending : Ending)
  /-- The run ended with a report. -/
  | finished (report : Report)
  /-- The run ended with a fault that is not reported. -/
  | failed (fault : Fault)

/-- The report of a fault with a message. -/
def Report.ofMessage (message : Text) : Report where
  code := 1
  output := []
  complaint := "ERROR ".toList ++ message ++ ['\n']
  written := none

/-- The rows that the arguments ask for; without any there is one empty row. -/
def Arguments.loadRows
    [Yaml.Reader]
    (arguments : Arguments)
    (files : FileTree) : Except LoadFault (List Row) :=
  if arguments.rows.isEmpty then
    .ok [[]]
  else do
    return (← Record.load files (Path.ofText arguments.rows)).map Record.toRow

/-- The options of all labels of a run. -/
def Arguments.options
    (arguments : Arguments)
    (settings : Settings) : Options :=
  Options.ofResolution
    (if arguments.dpi = 0 then settings.render.defaultDpi else arguments.dpi)

/-- Print labels or write them to a file. -/
def Arguments.deliver
    (arguments : Arguments)
    (count : Nat)
    (labels : Text) : Report :=
  let text := labels ++ ['\n']
  if arguments.out.isEmpty then
    ⟨0, text, [], none⟩
  else
    let line := arguments.out ++ ": labels=".toList ++ Numeral.ofNat count ++ ['\n']
    ⟨0, line, [], some (Path.ofText arguments.out, text)⟩

/-- Render the labels that the arguments ask for. -/
def Arguments.run
    [Yaml.Reader]
    [Pool]
    (arguments : Arguments)
    (settings : Settings)
    (files : FileTree)
    (clock : Moment) : Except Fault Report := do
  let design ← (Design.load files (Path.ofText arguments.design)).mapError .load
  let rows ← (arguments.loadRows files).mapError .load
  if settings.batch.maxRows < rows.length then
    .error (.tooManyRows rows.length settings.batch.maxRows)
  else
    let labels ←
      (design.runBatch settings clock rows (arguments.options settings)).mapError .render
    return arguments.deliver rows.length labels

/--
The files after a report.  A file is emptied when it is opened, and it stays empty if it does
not take its text.
-/
def Report.applyTo
    [Channels]
    (report : Report)
    (files : FileTree) : Except FileFault FileTree :=
  match report.written with
  | none => .ok files
  | some (path, text) => files.write path (if Channels.stores text then text else [])

/-- The outcome of a fault: a report if it has a message. -/
def Outcome.ofFault (fault : Fault) : Outcome :=
  match fault.message? with
  | some message => .finished (.ofMessage message)
  | none => .failed fault

/-- The outcome of a report whose file, if it has one, is open. -/
def Report.outcome
    [Channels]
    (report : Report) : Outcome :=
  if report.written.all (fun file => Channels.stores file.2) && Channels.prints report.output then
    .finished report
  else
    .failed .undelivered

variable [Yaml.Reader] [Pool] [Channels]

/-- Run arguments in a workspace, which keeps the settings that were loaded. -/
def runArguments
    (workspace : Workspace)
    (clock : Moment)
    (arguments : Arguments) : Outcome × Workspace :=
  match workspace.settings with
  | .error fault => (.failed (.settings fault), workspace)
  | .ok (settings, workspace) =>
      if settings.startsLog then
        match arguments.run settings workspace.files clock with
        | .error fault => (.ofFault fault, workspace)
        | .ok report =>
            match report.applyTo workspace.files with
            | .error fault => (.failed (.file fault), workspace)
            | .ok files => (report.outcome, { workspace with files := files })
      else
        (.failed .logging, workspace)

/-- Run a command line in a workspace. -/
def run
    (workspace : Workspace)
    (clock : Moment)
    (texts : List Text) : Outcome × Workspace :=
  match Arguments.parse texts with
  | .error ending => (.ended ending, workspace)
  | .ok arguments => runArguments workspace clock arguments

end CommandLine
end LabelPress
