import LabelPress.CommandLine.Run
import Std.Time.DateTime.Timestamp

/-!
# The program

Reads the files, the environment and the clock, runs the command line on them, and writes
what the run leaves behind.
-/

namespace LabelPress
namespace Console

/-- The text of a file that can be read. -/
def readFile? (path : Path) : IO (Option Text) := do
  try
    return some (← IO.FS.readFile (String.ofList path.text)).toList
  catch _ =>
    return none

/-- A tree with one more file, if it can be read, and with its folder in any case. -/
def withFile
    (files : FileTree)
    (path : Path) : IO FileTree := do
  let files := (files.makeFolder [] path.names.dropLast).toOption.getD files
  match ← readFile? path with
  | some text => return (files.store path text).toOption.getD files
  | none => return files

/-- The paths that a run may read or write. -/
def pathsOf (arguments : List Text) : List Path :=
  let values := arguments.filterMap fun argument =>
    (CommandLine.cutValue argument).2
  [Workspace.settingsPath, Workspace.fallbackPath] ++
    (arguments ++ values).map Path.ofText

/-- The names of the environment variables that set sections and fields. -/
def variableNames : List Text :=
  Settings.layout.flatMap fun entry =>
    let name := Environment.sectionVariable entry.1
    name :: entry.2.map fun field => name ++ "__".toList ++ field

/-- The environment variables that set sections and fields. -/
def readEnvironment : IO Environment := do
  let found ← variableNames.mapM fun name => do
    let value ← IO.getEnv (String.ofList (Text.upper name))
    return value.map fun text => (name, text.toList)
  return found.filterMap id

/-- The current moment. -/
def readClock : IO Moment := do
  let now ← Std.Time.Timestamp.now
  let microseconds := now.toNanosecondsSinceUnixEpoch.val / 1000
  return (Moment.ofEpoch? microseconds).getD (Moment.midnight Date.epoch)

/-- Write what a run leaves behind and tell its exit code. -/
def deliver : CommandLine.Outcome → IO UInt32
  | .ended .help => do
      IO.print (String.ofList CommandLine.usage)
      return UInt32.ofNat CommandLine.Ending.help.code
  | .ended .misuse => do
      IO.eprint (String.ofList CommandLine.usage)
      return UInt32.ofNat CommandLine.Ending.misuse.code
  | .failed fault => do
      IO.eprint (String.ofList fault.summary)
      return 1
  | .finished report => do
      if let some (path, text) := report.written then
        IO.FS.writeFile (String.ofList path.text) (String.ofList text)
      IO.print (String.ofList report.output)
      IO.eprint (String.ofList report.complaint)
      return UInt32.ofNat report.code

end Console
end LabelPress

open LabelPress in
/-- Run the command line on the files, the environment and the clock. -/
def main (arguments : List String) : IO UInt32 := do
  let texts := arguments.map String.toList
  let files ← (Console.pathsOf texts).foldlM Console.withFile FileTree.empty
  let workspace : Workspace := ⟨files, ← Console.readEnvironment, none⟩
  let (outcome, _) := CommandLine.run workspace (← Console.readClock) texts
  Console.deliver outcome
