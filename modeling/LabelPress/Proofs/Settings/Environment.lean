import LabelPress.Proofs.Outcome
import LabelPress.Proofs.Session
import LabelPress.Proofs.Workspace.Load

/-!
# The environment and the settings file

Which of the two decides a field that both can set.  Main statement: a settings file decides
every field, those included that it does not name, so the settings have the values of the
environment only where these are the values of the file.

The sections of a file are made as a whole before they meet the environment, and what is
given as a whole wins as a whole.
-/

namespace LabelPress

namespace Settings

/-- A field of a section. -/
inductive Key where
  /-- The resolution of labels without one of their own. -/
  | defaultDpi
  /-- The font size of elements without one of their own. -/
  | defaultFontSize
  /-- The pixels of a millimetre. -/
  | pixelsPerMillimetre
  /-- The number of labels that are rendered at the same time. -/
  | maxWorkers
  /-- The largest number of rows of a batch. -/
  | maxRows
  /-- The name of the least level that is logged. -/
  | level
deriving DecidableEq

namespace Key

/-- The values of a field. -/
def Value : Key → Type
  | .defaultDpi => Int
  | .defaultFontSize => Double
  | .pixelsPerMillimetre => Double
  | .maxWorkers => Int
  | .maxRows => Int
  | .level => Text

/-- The names of the section of a field and of the field in it. -/
def names : Key → String × String
  | .defaultDpi => ("render", "default_dpi")
  | .defaultFontSize => ("render", "default_font_size")
  | .pixelsPerMillimetre => ("render", "px_per_mm")
  | .maxWorkers => ("batch", "max_workers")
  | .maxRows => ("batch", "max_rows")
  | .level => ("logging", "log_level")

/-- The value of a field in some settings. -/
def get : (key : Key) → Settings → key.Value
  | .defaultDpi, settings => settings.render.defaultDpi
  | .defaultFontSize, settings => settings.render.defaultFontSize
  | .pixelsPerMillimetre, settings => settings.render.pixelsPerMillimetre
  | .maxWorkers, settings => settings.batch.maxWorkers
  | .maxRows, settings => settings.batch.maxRows
  | .level, settings => settings.logging.level

/-- The check of the values of a field. -/
def check : (key : Key) → Document → Check key.Value
  | .defaultDpi => Check.integer
  | .defaultFontSize => Check.real
  | .pixelsPerMillimetre => Check.real
  | .maxWorkers => Check.atLeast 1 Check.integer
  | .maxRows => Check.atLeast 1 Check.integer
  | .level => Check.text

/-- The name of the environment variable of a field, in lower case. -/
def variableName (key : Key) : Text :=
  Environment.sectionVariable key.names.1.toList ++ "__".toList ++ key.names.2.toList

/-- Settings with another value of a field. -/
def set : (key : Key) → key.Value → Settings → Settings
  | .defaultDpi, value, settings =>
      { settings with render := { settings.render with defaultDpi := value } }
  | .defaultFontSize, value, settings =>
      { settings with render := { settings.render with defaultFontSize := value } }
  | .pixelsPerMillimetre, value, settings =>
      { settings with render := { settings.render with pixelsPerMillimetre := value } }
  | .maxWorkers, value, settings =>
      { settings with batch := { settings.batch with maxWorkers := value } }
  | .maxRows, value, settings =>
      { settings with batch := { settings.batch with maxRows := value } }
  | .level, value, settings =>
      { settings with logging := { settings.logging with level := value } }

@[simp] theorem get_set
    (key : Key)
    (value : key.Value)
    (settings : Settings) :
    key.get (key.set value settings) = value := by
  cases key <;> rfl

theorem get_set_of_ne
    {key other : Key}
    (different : other ≠ key)
    (value : key.Value)
    (settings : Settings) :
    other.get (key.set value settings) = other.get settings := by
  cases key <;> cases other <;> simp at different <;> rfl

theorem variableName_injective :
    Function.Injective variableName := by
  intro key other
  cases key <;> cases other <;> decide

end Key
end Settings

open Settings

namespace Environment

variable {environment : Environment}

/-- The value that the environment has for a field, if that is one for it. -/
def given?
    (environment : Environment)
    (key : Key) : Option key.Value :=
  (environment.folded.lookup key.variableName).bind fun text =>
    (key.check (.text text)).toOption

/-- Settings have the values of the environment and, where it has none, those of a base. -/
def Overrides
    (environment : Environment)
    (base settings : Settings) : Prop :=
  ∀ key : Key, key.get settings = (environment.given? key).getD (key.get base)

/-- A base with the values of the environment is one that agrees with it. -/
theorem overrides_self_iff
    {base : Settings} :
    environment.Overrides base base ↔
      ∀ (key : Key) value, environment.given? key = some value → key.get base = value := by
  apply forall_congr'
  intro key
  cases environment.given? key <;> simp

/-- The variables of whole sections hold documents. -/
def InOrder (environment : Environment) : Prop :=
  ∀ name ∈ sectionNames, ∀ text,
    environment.folded.lookup (sectionVariable name) = some text →
      ∃ document, Document.ofJson? text = some document

theorem succeeds_section?
    {name : Text}
    {fields : List Text} :
    Succeeds (environment.section? name fields) ↔
      ∀ text, environment.folded.lookup (sectionVariable name) = some text →
        ∃ document, Document.ofJson? text = some document := by
  unfold section?
  cases environment.folded.lookup (sectionVariable name) with
  | none => simp
  | some text =>
      cases read : Document.ofJson? text with
      | none => simp [read]
      | some document => cases document <;> simp [read]

theorem succeeds_sections :
    Succeeds environment.sections ↔ environment.InOrder := by
  rw [sections, Succeeds.bind_pure_iff, Succeeds.mapM_iff, InOrder, sectionNames,
    List.forall_mem_map]
  simp only [Succeeds.bind_pure_iff, succeeds_section?]

theorem section?_eq_error
    {name : Text}
    {fields : List Text}
    {fault : SettingsFault}
    (failed : environment.section? name fields = .error fault) :
    fault = .badVariable := by
  unfold section? at failed
  dsimp only at failed
  repeat' split at failed
  all_goals cases failed
  rfl

theorem sections_eq_error_iff {fault : SettingsFault} :
    environment.sections = .error fault ↔ fault = .badVariable ∧ ¬ environment.InOrder := by
  have onlyFault (fault : SettingsFault) (failed : environment.sections = .error fault) :
      fault = .badVariable := by
    rw [sections, bind_eq_error] at failed
    rcases failed with failed | ⟨_, -, impossible⟩
    · obtain ⟨_, -, failed⟩ := exists_of_mapM_eq_error failed
      rcases bind_eq_error.1 failed with failed | ⟨_, -, impossible⟩
      · exact section?_eq_error failed
      · cases impossible
    · cases impossible
  rw [← succeeds_sections]
  constructor
  · intro failed
    refine ⟨onlyFault fault failed, ?_⟩
    rw [failed]
    exact Succeeds.not_error fault
  · rintro ⟨rfl, fails⟩
    cases outcome : environment.sections with
    | ok found => exact absurd ⟨found, outcome⟩ fails
    | error other => rw [onlyFault other outcome]

end Environment

/-! ## Files -/

namespace Settings

variable {files : FileTree} {environment : Environment} {path : Path} {settings : Settings}

theorem load_of_not_holds
    [Yaml.Reader]
    (reachable : files.isOverlong path = false)
    (absent : files.holds path = false) :
    load files environment path = inEnvironment environment [] := by
  rw [load, if_neg (Bool.eq_false_iff.1 reachable), if_neg (Bool.eq_false_iff.1 absent)]

theorem load_of_holds
    [Yaml.Reader]
    (present : files.holds path = true) :
    load files environment path =
      (do
        let text ← (files.read path).mapError .file
        let document ← (Yaml.Reader.read text).mapError .yaml
        ofDocument environment document) := by
  rw [load, FileTree.isOverlong_of_holds present, if_neg Bool.false_ne_true, if_pos present]

theorem load_of_hasDocument
    [Yaml.Reader]
    {document : Document}
    (found : files.HasDocument path document) :
    load files environment path = ofDocument environment document := by
  obtain ⟨text, read, parsed⟩ := found
  rw [load_of_holds (FileTree.holds_iff.2 (Or.inr ⟨text, read⟩)), read, mapError_ok]
  change (Yaml.Reader.read text).mapError .yaml >>= ofDocument environment = _
  rw [parsed]
  rfl

/-- The environment is looked at last, and changes nothing. -/
theorem ofDocument_eq_bind {document : Document} :
    ofDocument environment document =
      (do
        let settings ← ofDocument [] document
        let _ ← environment.sections
        return settings) := by
  have nothing : Environment.sections [] = pure [] := rfl
  simp only [ofDocument, nothing, bind_assoc, pure_bind]

theorem load_eq_bind_of_holds
    [Yaml.Reader]
    (present : files.holds path = true) :
    load files environment path =
      (do
        let settings ← load files [] path
        let _ ← environment.sections
        return settings) := by
  simp only [load_of_holds present, bind_assoc]
  refine bind_congr fun text => bind_congr fun document => ?_
  exact ofDocument_eq_bind

/-- The environment has to be in order for the settings of a file. -/
theorem load_eq_ok_of_holds
    [Yaml.Reader]
    (present : files.holds path = true) :
    load files environment path = .ok settings ↔
      load files [] path = .ok settings ∧ environment.InOrder := by
  rw [load_eq_bind_of_holds present, ← Environment.succeeds_sections, bind_eq_ok]
  simp only [bind_eq_ok]
  constructor
  · rintro ⟨_, made, sections, inOrder, same⟩
    cases same
    exact ⟨made, sections, inOrder⟩
  · rintro ⟨made, sections, inOrder⟩
    exact ⟨settings, made, sections, inOrder, rfl⟩

/-! ## Without a file -/

variable {key : Key} {text : Text} {value : key.Value}

/-- A single variable sets its field in its section. -/
theorem sections_of_variable
    (only : environment.folded = [(key.variableName, text)]) :
    environment.sections =
      .ok [(.text key.names.1.toList, .mapping [(.text key.names.2.toList, .text text)])] := by
  unfold Environment.sections Environment.section? Environment.sectionFields
  rw [only]
  cases key <;> rfl

theorem ofEntries_of_variable
    (valid : key.check (.text text) = .ok value) :
    ofEntries [(.text key.names.1.toList, .mapping [(.text key.names.2.toList, .text text)])] =
      .ok (key.set value .initial) := by
  have single (name other : Text) (document : Document) :
      Document.get? [(.text name, document)] other =
        if name = other then some document else none := by
    simp [Document.get?, Document.sameKey]
  cases key <;>
    · simp only [Key.check] at valid
      simp [Key.names, ofEntries, checkSection, RenderSettings.ofEntries,
        BatchSettings.ofEntries, LoggingSettings.ofEntries, Check.optional, single, valid]
      rfl

/-- Where there is no settings file, a variable decides its field and no other. -/
theorem load_overrides_of_not_holds
    [Yaml.Reader]
    (reachable : files.isOverlong path = false)
    (absent : files.holds path = false)
    (only : environment.folded = [(key.variableName, text)])
    (valid : key.check (.text text) = .ok value) :
    load files environment path = .ok (key.set value .initial) ∧
      environment.Overrides .initial (key.set value .initial) := by
  constructor
  · rw [load_of_not_holds reachable absent, inEnvironment, sections_of_variable only]
    change (ofEntries [(.text key.names.1.toList,
      .mapping [(.text key.names.2.toList, .text text)])]).mapError SettingsFault.issues = _
    rw [ofEntries_of_variable valid]
    rfl
  · intro other
    rw [Environment.given?, only]
    by_cases same : other = key
    · subst same
      rw [Key.get_set, List.lookup_cons_self, Option.bind_some, valid]
      rfl
    · have apart : (other.variableName == key.variableName) = false :=
        beq_false_of_ne fun equal => same (Key.variableName_injective equal)
      rw [Key.get_set_of_ne same, List.lookup_cons, apart]
      rfl

end Settings

/-! ## Workspaces -/

namespace Workspace

variable {workspace : Workspace} {path : Path}

/-- The path that a reload reads. -/
def reloadPath : Option Text → Path
  | none => settingsPath
  | some text => if text.isEmpty then settingsPath else Path.ofText text

theorem reload_eq_hold
    [Yaml.Reader]
    (workspace : Workspace)
    (given : Option Text) :
    workspace.reload given = workspace.hold (reloadPath given) := by
  cases given <;> rfl

/-- The ways in which settings are loaded from a path. -/
inductive Loads
    [Yaml.Reader]
    (workspace : Workspace)
    (path : Path) : Except SettingsFault Settings → Prop where
  | file : Loads workspace path (workspace.loadSettings path)
  | first
      (empty : workspace.held = none)
      (default : workspace.defaultPath = path) :
      Loads workspace path (workspace.settings.map Prod.fst)
  | again
      (given : Option Text)
      (named : reloadPath given = path) :
      Loads workspace path ((workspace.reload given).map Prod.fst)

/-- All ways to load settings give those of the file. -/
theorem Loads.eq_loadSettings
    [Yaml.Reader]
    {loaded : Except SettingsFault Settings}
    (loads : workspace.Loads path loaded) :
    loaded = workspace.loadSettings path := by
  have held (path : Path) : (workspace.hold path).map Prod.fst = workspace.loadSettings path := by
    rw [hold]
    cases workspace.loadSettings path <;> rfl
  cases loads with
  | file => rfl
  | first empty default => rw [settings, empty, ← default, held]
  | again given named => rw [reload_eq_hold, named, held]

/--
Settings that are loaded from a file, in any way, are those of the file without the
environment, of which only the variables of whole sections have to be in order.  So they have
the values of the environment exactly if these are the values of the file.
-/
theorem file_hides_environment
    [Yaml.Reader]
    {base : Settings}
    (present : workspace.files.holds path = true)
    (valid : Settings.load workspace.files [] path = .ok base)
    {loaded : Except SettingsFault Settings}
    (loads : workspace.Loads path loaded) :
    (Succeeds loaded ↔ workspace.environment.InOrder) ∧
      ∀ settings, loaded = .ok settings →
        settings = base ∧
          (workspace.environment.Overrides base settings ↔
            ∀ (key : Key) value, workspace.environment.given? key = some value →
              key.get base = value) := by
  have made (settings : Settings) :
      loaded = .ok settings ↔ base = settings ∧ workspace.environment.InOrder := by
    rw [loads.eq_loadSettings, loadSettings, Settings.load_eq_ok_of_holds present, valid,
      Except.ok.injEq]
  constructor
  · simp [Succeeds, made]
  · intro settings outcome
    obtain ⟨rfl, -⟩ := (made settings).1 outcome
    exact ⟨rfl, Environment.overrides_self_iff⟩

theorem file_hides_environment_same_value :
    let environment : Environment := [("LABEL_ENGINE_BATCH__MAX_ROWS".toList, "10000".toList)]
    let files : FileTree := ⟨[(settingsPath.parts, [])], [["documents".toList]]⟩
    let workspace : Workspace := ⟨files, environment, none⟩
    files.holds settingsPath = true ∧ Settings.load files [] settingsPath = .ok .initial ∧
      workspace.Loads settingsPath (.ok .initial) ∧
        environment.given? .maxRows = some (10000 : Int) ∧
          environment.Overrides .initial .initial := by
  intro environment files workspace
  have loads : workspace.Loads settingsPath (.ok .initial) := .first rfl rfl
  have given : environment.given? .maxRows = some (10000 : Int) := rfl
  refine ⟨rfl, rfl, loads, given, ?_⟩
  apply ((file_hides_environment rfl rfl loads).2 .initial rfl).2.2
  intro key value found
  cases key with
  | maxRows =>
      cases given.symm.trans found
      rfl
  | _ => cases found

/-- A variable for the number of workers changes nothing next to an empty settings file. -/
theorem not_overrides_empty_file :
    let environment : Environment := [("LABEL_ENGINE_BATCH__MAX_WORKERS".toList, ['3'])]
    let files : FileTree := ⟨[(settingsPath.parts, [])], [["documents".toList]]⟩
    let workspace : Workspace := ⟨files, environment, none⟩
    files.holds settingsPath = true ∧ Settings.load files [] settingsPath = .ok .initial ∧
      environment.given? .maxWorkers = some (3 : Int) ∧
        workspace.settings = .ok (.initial, { workspace with held := some .initial }) ∧
          ¬ environment.Overrides .initial .initial := by
  intro environment files workspace
  have given : environment.given? .maxWorkers = some (3 : Int) := rfl
  refine ⟨rfl, rfl, given, rfl, ?_⟩
  intro overrides
  have same : (1 : Int) = 3 := Environment.overrides_self_iff.1 overrides .maxWorkers _ given
  exact absurd same (by decide)

end Workspace
end LabelPress
