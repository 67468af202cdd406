import LabelPress.Schema.Scalar

/-!
# Settings

The settings of a running program in three sections: rendering, batches and logging.
-/

namespace LabelPress

/-- The settings of rendering. -/
structure RenderSettings where
  /-- The resolution of labels without one of their own. -/
  defaultDpi : Int
  /-- The font size of elements without one of their own. -/
  defaultFontSize : Double
  /-- The pixels of a millimetre. -/
  pixelsPerMillimetre : Double

/-- The settings of batches. -/
structure BatchSettings where
  /-- The number of labels that are rendered at the same time. -/
  maxWorkers : Int
  /-- The largest number of rows of a batch. -/
  maxRows : Int

/-- The settings of logging. -/
structure LoggingSettings where
  /-- The name of the least level that is logged. -/
  level : Text

/-- All settings. -/
structure Settings where
  /-- The section on rendering. -/
  render : RenderSettings
  /-- The section on batches. -/
  batch : BatchSettings
  /-- The section on logging. -/
  logging : LoggingSettings

/-- The rendering section with the fields of a mapping. -/
def RenderSettings.ofEntries (entries : Document.Entries) : Check RenderSettings :=
  Check.accept RenderSettings.mk
    |>.andThen (Check.optional entries "default_dpi" 203 Check.integer)
    |>.andThen (Check.optional entries "default_font_size" (Double.ofInt 10) Check.real)
    |>.andThen (Check.optional entries "px_per_mm" (Double.ofInt 6) Check.real)

/-- The batch section with the fields of a mapping. -/
def BatchSettings.ofEntries (entries : Document.Entries) : Check BatchSettings :=
  Check.accept BatchSettings.mk
    |>.andThen (Check.optional entries "max_workers" 1 (Check.atLeast 1 Check.integer))
    |>.andThen (Check.optional entries "max_rows" 10000 (Check.atLeast 1 Check.integer))

/-- The logging section with the fields of a mapping. -/
def LoggingSettings.ofEntries (entries : Document.Entries) : Check LoggingSettings :=
  Check.accept LoggingSettings.mk
    |>.andThen (Check.optional entries "log_level" "INFO".toList Check.text)

namespace Settings

/-- A section that has to be a mapping. -/
def checkSection
    {α : Type}
    (entries : Document.Entries)
    (name : String)
    (check : Document.Entries → Check α) : Check α :=
  match Document.get? entries name.toList with
  | none => Check.within (.field name.toList) (check [])
  | some (.mapping fields) => Check.within (.field name.toList) (check fields)
  | some _ => Check.within (.field name.toList) (Check.reject .modelType)

/-- The names of the sections and of their fields. -/
def layout : List (Text × List Text) :=
  [("render".toList,
      ["default_dpi".toList, "default_font_size".toList, "px_per_mm".toList]),
    ("batch".toList, ["max_workers".toList, "max_rows".toList]),
    ("logging".toList, ["log_level".toList])]

/-- The names of the sections. -/
def sectionNames : List Text :=
  layout.map Prod.fst

/-- A complaint about every field that is no section. -/
def checkNoExtra (entries : Document.Entries) : Check Unit :=
  (Check.all (entries.map fun entry =>
    match entry.1 with
    | .text name =>
        if sectionNames.contains name then
          Check.accept ()
        else
          Check.within (.field name) (Check.reject .extraForbidden)
    | _ => Check.accept ())).map fun _ => ()

/-- The settings with the sections of a mapping, which has no other fields. -/
def ofEntries (entries : Document.Entries) : Check Settings :=
  Check.accept (fun render batch logging _ => Settings.mk render batch logging)
    |>.andThen (checkSection entries "render" RenderSettings.ofEntries)
    |>.andThen (checkSection entries "batch" BatchSettings.ofEntries)
    |>.andThen (checkSection entries "logging" LoggingSettings.ofEntries)
    |>.andThen (checkNoExtra entries)

/--
What the names that logging knows in capitals stand for: the numbers of levels, and two
things that are no level.
-/
def levels : List (Text × Option Nat) :=
  [("CRITICAL".toList, some 50), ("FATAL".toList, some 50), ("ERROR".toList, some 40),
    ("WARNING".toList, some 30), ("WARN".toList, some 30), ("INFO".toList, some 20),
    ("DEBUG".toList, some 10), ("NOTSET".toList, some 0), ("BASIC_FORMAT".toList, none),
    ("_STYLES".toList, none)]

/--
The number of the logging level of the settings, if its name is not that of something else;
an unknown name is `INFO`.
-/
def logLevel (settings : Settings) : Option Nat :=
  (levels.lookup (Text.upper settings.logging.level)).getD (some 20)

end Settings
end LabelPress
