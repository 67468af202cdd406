import LabelPress.Proofs.Outcome
import LabelPress.Proofs.Schema.Defaults
import LabelPress.Session

/-!
# The settings of a session

Where the settings come from that a session keeps.  Main statement: they change only by a
load that succeeds.  What an answered request for them gives is found again after all
further steps, up to a reload that succeeds, and a request that fails changes nothing.

Settings that are kept are lost to nothing but a reload: every other step either does not
touch them or uses them through the one function that loads them if there are none.
-/

namespace LabelPress

section
variable [Yaml.Reader]

namespace Workspace

variable {workspace next : Workspace} {settings : Settings}

theorem hold_eq_ok
    {path : Path} :
    workspace.hold path = .ok (settings, next) ↔
      workspace.loadSettings path = .ok settings ∧
        next = { workspace with held := some settings } := by
  rw [hold, bind_eq_ok]
  constructor
  · rintro ⟨loaded, made, kept⟩
    cases kept
    exact ⟨made, rfl⟩
  · rintro ⟨made, rfl⟩
    exact ⟨settings, made, rfl⟩

/-- Settings that are kept are given without a look at the files. -/
theorem settings_eq_of_held
    (kept : workspace.held = some settings) :
    workspace.settings = .ok (settings, workspace) := by
  rw [Workspace.settings, kept]

/-- Settings are given because they are kept, or loaded because none are. -/
theorem settings_cases
    (found : workspace.settings = .ok (settings, next)) :
    (workspace.held = some settings ∧ next = workspace) ∨
      workspace.held = none ∧ workspace.loadSettings workspace.defaultPath = .ok settings ∧
        next = { workspace with held := some settings } := by
  cases kept : workspace.held with
  | some known =>
      rw [settings_eq_of_held kept] at found
      cases found
      exact Or.inl ⟨rfl, rfl⟩
  | none =>
      rw [Workspace.settings, kept] at found
      exact Or.inr ⟨rfl, hold_eq_ok.1 found⟩

/-- Settings that are given are kept from then on, and nothing else changes. -/
theorem eq_of_settings
    (found : workspace.settings = .ok (settings, next)) :
    next = { workspace with held := some settings } := by
  rcases settings_cases found with ⟨kept, rfl⟩ | ⟨-, -, loaded⟩
  · rw [← kept]
  · exact loaded

/-- A reload that succeeds has loaded a file, and nothing else changes. -/
theorem exists_load_of_reload
    {path : Option Text}
    (reloaded : workspace.reload path = .ok (settings, next)) :
    ∃ place, workspace.loadSettings place = .ok settings ∧
      next = { workspace with held := some settings } := by
  cases path with
  | none => exact ⟨_, hold_eq_ok.1 reloaded⟩
  | some text => exact ⟨_, hold_eq_ok.1 reloaded⟩

/-- The settings stay, or they are loaded from the default file because there are none. -/
def KeepsSettings (workspace next : Workspace) : Prop :=
  next.held = workspace.held ∨
    workspace.held = none ∧
      ∃ settings, workspace.loadSettings workspace.defaultPath = .ok settings ∧
        next.held = some settings

theorem KeepsSettings.held_eq
    (keeps : workspace.KeepsSettings next)
    (kept : workspace.held = some settings) :
    next.held = some settings := by
  rcases keeps with same | ⟨empty, -⟩
  · exact same.trans kept
  · rw [empty] at kept
    cases kept

theorem keepsSettings_of_settings
    (found : workspace.settings = .ok (settings, next)) :
    workspace.KeepsSettings next := by
  rcases settings_cases found with ⟨-, rfl⟩ | ⟨empty, loaded, rfl⟩
  · exact Or.inl rfl
  · exact Or.inr ⟨empty, settings, loaded, rfl⟩

end Workspace

/-- A run of the command line keeps settings as it finds them. -/
theorem CommandLine.keepsSettings_run
    [Pool]
    [Channels]
    (workspace : Workspace)
    (clock : Moment)
    (texts : List Text) :
    workspace.KeepsSettings (run workspace clock texts).2 := by
  unfold run
  split
  · exact Or.inl rfl
  · unfold runArguments
    split
    · exact Or.inl rfl
    · rename_i found
      have keeps := Workspace.keepsSettings_of_settings found
      -- Only the files of the workspace change behind the load.
      split
      · split
        · exact keeps
        · split <;> exact keeps
      · exact keeps

namespace Session

theorem keepsSettings_changeFiles
    (workspace : Workspace)
    (changed : Except FileFault FileTree) :
    workspace.KeepsSettings (changeFiles workspace changed).2 := by
  unfold changeFiles
  split <;> exact Or.inl rfl

theorem keepsSettings_useSettings
    (workspace : Workspace)
    (use : Settings → Except Fault Answer) :
    workspace.KeepsSettings (useSettings workspace workspace.settings use).2 := by
  unfold useSettings
  split
  · rename_i found
    exact Workspace.keepsSettings_of_settings found
  · exact Or.inl rfl

variable [Pool] [Channels]

/-- A step and the moment at which it is taken. -/
structure Event where
  clock : Moment
  step : Step

/-- The answer to an event and the workspace behind it. -/
def Event.run
    (event : Event)
    (workspace : Workspace) : Result :=
  event.step.run workspace event.clock

/-- The workspace behind a list of events. -/
def after (workspace : Workspace) : List Event → Workspace
  | [] => workspace
  | event :: others => after (event.run workspace).2 others

/-- The steps of a list of events with their answers. -/
def trace (workspace : Workspace) : List Event → List (Step × Except Fault Answer)
  | [] => []
  | event :: others =>
      (event.step, (event.run workspace).1) :: trace (event.run workspace).2 others

/-- A step that is answered with the settings that are kept from then on. -/
def Step.AsksSettings : Step → Prop
  | .getSettings => True
  | .reloadSettings _ => True
  | _ => False

/-- A reload that succeeded. -/
def Reloaded (entry : Step × Except Fault Answer) : Prop :=
  ∃ path settings, entry = (.reloadSettings path, .ok (.settings settings))

variable {workspace : Workspace} {clock : Moment} {step : Step} {settings : Settings}

/-! ## Steps -/

/-- Every step but a reload keeps settings that there are. -/
theorem Step.keepsSettings
    (noReload : ∀ path, step ≠ .reloadSettings path) :
    workspace.KeepsSettings (step.run workspace clock).2 := by
  cases step with
  | write path text => exact keepsSettings_changeFiles workspace _
  | remove path => exact keepsSettings_changeFiles workspace _
  | read path => exact Or.inl rfl
  | setVariable name value => exact Or.inl rfl
  | makeSettings entries => exact Or.inl rfl
  | loadSettings path => exact Or.inl rfl
  | getSettings => exact keepsSettings_useSettings workspace _
  | reloadSettings path => exact absurd rfl (noReload path)
  | logLevel entries =>
      cases entries with
      | some entries => exact Or.inl rfl
      | none => exact keepsSettings_useSettings workspace _
  | loadDesign path => exact Or.inl rfl
  | loadRows path => exact Or.inl rfl
  | render design row options => exact keepsSettings_useSettings workspace _
  | renderBatch design rows options => exact keepsSettings_useSettings workspace _
  | command arguments => exact CommandLine.keepsSettings_run workspace clock arguments

/-- A request for settings keeps those that it answers with, or changes nothing. -/
theorem Event.run_of_asksSettings
    {event : Event}
    (asks : event.step.AsksSettings)
    (workspace : Workspace) :
    (∃ settings,
        event.run workspace =
          (.ok (.settings settings), { workspace with held := some settings })) ∨
      ∃ fault, event.run workspace = (.error (.settings fault), workspace) := by
  obtain ⟨clock, step⟩ := event
  cases step with
  | getSettings =>
      rw [Event.run, Step.run]
      cases found : workspace.settings with
      | error fault => exact Or.inr ⟨fault, rfl⟩
      | ok loaded =>
          rw [useSettings, Workspace.eq_of_settings found]
          exact Or.inl ⟨loaded.1, rfl⟩
  | reloadSettings path =>
      rw [Event.run, Step.run]
      cases found : workspace.reload path with
      | error fault => exact Or.inr ⟨fault, rfl⟩
      | ok loaded =>
          obtain ⟨-, -, changed⟩ := Workspace.exists_load_of_reload found
          rw [useSettings, changed]
          exact Or.inl ⟨loaded.1, rfl⟩
  | _ => exact asks.elim

/-- The three ways of settings through an event: they stay, are reloaded, or first loaded. -/
theorem Event.keepsSettings_or_reloaded
    (event : Event)
    (workspace : Workspace) :
    workspace.KeepsSettings (event.run workspace).2 ∨
      ∃ path place settings,
        event.step = .reloadSettings path ∧ workspace.loadSettings place = .ok settings ∧
          event.run workspace =
            (.ok (.settings settings), { workspace with held := some settings }) := by
  by_cases reload : ∃ path, event.step = .reloadSettings path
  · obtain ⟨path, same⟩ := reload
    rw [Event.run, same, Step.run]
    cases found : workspace.reload path with
    | error fault => exact Or.inl (Or.inl rfl)
    | ok loaded =>
        obtain ⟨place, made, changed⟩ := Workspace.exists_load_of_reload found
        rw [useSettings, changed]
        exact Or.inr ⟨path, place, loaded.1, rfl, made, rfl⟩
  · rw [not_exists] at reload
    exact Or.inl (Step.keepsSettings reload)

/-- Settings that there are outlive every event but a reload that succeeds. -/
theorem Event.held_run
    {event : Event}
    (kept : workspace.held = some settings)
    (noReload : ¬ Reloaded (event.step, (event.run workspace).1)) :
    (event.run workspace).2.held = some settings := by
  rcases event.keepsSettings_or_reloaded workspace with
    keeps | ⟨path, _, loaded, same, -, answered⟩
  · exact keeps.held_eq kept
  · rw [same, answered] at noReload
    exact absurd ⟨path, loaded, rfl⟩ noReload

/-! ## Runs -/

/-- Settings that there are outlive a whole run without a reload that succeeds. -/
theorem held_after
    {events : List Event}
    (kept : workspace.held = some settings)
    (noReload : ∀ entry ∈ trace workspace events, ¬ Reloaded entry) :
    (after workspace events).held = some settings := by
  induction events generalizing workspace with
  | nil => exact kept
  | cons event others inductionHypothesis =>
      rw [trace, List.forall_mem_cons] at noReload
      exact inductionHypothesis (event.held_run kept noReload.1) noReload.2

/-- What an answered request for settings gives is found again behind such a run. -/
theorem getSettings_after
    {events : List Event}
    (kept : workspace.held = some settings)
    (noReload : ∀ entry ∈ trace workspace events, ¬ Reloaded entry)
    (clock : Moment) :
    Step.getSettings.run (after workspace events) clock =
      (.ok (.settings settings), after workspace events) := by
  rw [Step.run, Workspace.settings_eq_of_held (held_after kept noReload)]
  rfl

/--
Behind any run, an event leaves the settings that are kept as they are, unless it reloads
them with success or loads them for the first time.  What an answered request for them
gives is given again, without a change, behind every further run in which no reload
succeeds, and a request that fails leaves the whole workspace as it is.
-/
theorem settings_change_only_by_load
    (start : Workspace)
    (before : List Event)
    (event : Event) :
    let here := after start before
    let answer := (event.run here).1
    let next := (event.run here).2
    (next.held = here.held ∨
        (∃ path place settings,
          event.step = .reloadSettings path ∧ here.loadSettings place = .ok settings ∧
            answer = .ok (.settings settings) ∧ next.held = some settings) ∨
        here.held = none ∧
          ∃ settings, here.loadSettings here.defaultPath = .ok settings ∧
            next.held = some settings) ∧
      (∀ settings, event.step.AsksSettings → answer = .ok (.settings settings) →
        ∀ later, (∀ entry ∈ trace next later, ¬ Reloaded entry) →
          ∀ clock,
            Step.getSettings.run (after next later) clock =
              (.ok (.settings settings), after next later)) ∧
      ∀ fault, event.step.AsksSettings → answer = .error fault → next = here := by
  intro here answer next
  refine ⟨?_, ?_, ?_⟩
  · rcases event.keepsSettings_or_reloaded here with
      (same | loaded) | ⟨path, place, settings, same, made, answered⟩
    · exact Or.inl same
    · exact Or.inr (Or.inr loaded)
    · refine Or.inr (Or.inl ⟨path, place, settings, same, made, ?_, ?_⟩)
      · exact congrArg Prod.fst answered
      · exact congrArg (fun result => result.2.held) answered
  · intro settings asks answered later noReload clock
    apply getSettings_after _ noReload clock
    rcases Event.run_of_asksSettings asks here with ⟨loaded, ran⟩ | ⟨fault, failed⟩
    · have same : Except.ok (Answer.settings loaded) = .ok (.settings settings) :=
        (congrArg Prod.fst ran).symm.trans answered
      cases same
      exact congrArg (fun result => result.2.held) ran
    · cases (congrArg Prod.fst failed).symm.trans answered
  · intro fault asks failed
    rcases Event.run_of_asksSettings asks here with ⟨loaded, ran⟩ | ⟨_, ran⟩
    · cases (congrArg Prod.fst ran).symm.trans failed
    · exact congrArg Prod.snd ran

end Session
end

theorem Session.settings_change_only_by_load_failed_reload :
    let clock : Moment := .midnight ⟨2026, 3, 15, by decide, by decide, by decide⟩
    let event : Event := ⟨clock, .getSettings⟩
    let next : Workspace := { Workspace.empty with held := some .initial }
    let later : List Event :=
      [⟨clock, .write (Path.ofText "documents/label_runtime.yaml".toList) "[".toList⟩,
        ⟨clock, .setVariable "LABEL_ENGINE_RENDER".toList (some "x".toList)⟩,
        ⟨clock, .reloadSettings (some "documents".toList)⟩]
    event.run .empty = (.ok (.settings .initial), next) ∧
      (∀ entry ∈ trace next later, ¬ Reloaded entry) ∧
        Step.getSettings.run (after next later) clock =
          (.ok (.settings .initial), after next later) := by
  intro clock event next later
  have given : event.run .empty = (.ok (.settings .initial), next) := rfl
  have answers :
      (trace next later).map Prod.snd =
        [.ok .done, .ok .done, .error (.settings (.file .isFolder))] := rfl
  have noReload : ∀ entry ∈ trace next later, ¬ Reloaded entry := by
    rintro entry member ⟨path, settings, rfl⟩
    have answered := List.mem_map_of_mem (f := Prod.snd) member
    rw [answers] at answered
    simp at answered
  refine ⟨given, noReload, ?_⟩
  have asks : event.step.AsksSettings := trivial
  exact (settings_change_only_by_load .empty [] event).2.1 .initial asks rfl later noReload clock

end LabelPress
