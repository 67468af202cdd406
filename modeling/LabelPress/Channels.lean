import LabelPress.Settings.Basic

/-!
# Channels

What a program writes to besides the files that it finds: its log, a file that it has
opened, and the standard output.  The log may be set up already, and neither a file nor the
standard output takes every text: its encoding may lack a character, or its device space.
-/

namespace LabelPress

/-- The state of the log and the texts that can be written. -/
class Channels where
  /-- The log is already set up, so that nobody sets it up again. -/
  logReady : Bool
  /-- An open file takes a text as a whole. -/
  stores : Text → Bool
  /-- The standard output takes a text as a whole. -/
  prints : Text → Bool

/-- A log that is still to be set up, and channels that take every text. -/
instance : Channels :=
  ⟨false, fun _ => true, fun _ => true⟩

/-- The log can be set up by the settings, unless it is not looked at. -/
def Settings.startsLog
    [Channels]
    (settings : Settings) : Bool :=
  Channels.logReady || settings.logLevel.isSome

end LabelPress
