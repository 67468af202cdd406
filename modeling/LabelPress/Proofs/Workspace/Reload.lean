import LabelPress.Proofs.Settings.Fault
import Mathlib

/-!
# Reloads

Whether settings that are loaded again are those of a first load.  A first load looks for the
settings file in two places, a reload without a path in the first one only.  Main statement:
the two give the same unless there is a file in the second place alone, and then they do so
only where this file is valid and says what holds without any file.
-/

namespace LabelPress
namespace Settings

variable {files : FileTree} {environment : Environment} {path : Path}

theorem inEnvironment_of_not_inOrder (disordered : ¬ environment.InOrder) :
    inEnvironment environment [] = .error .badVariable := by
  rw [inEnvironment, Environment.sections_eq_error_iff.2 ⟨rfl, disordered⟩]
  rfl

/-- A file gives the settings of the environment only if it says so itself. -/
theorem load_eq_inEnvironment_iff
    [Yaml.Reader]
    (present : files.holds path = true) :
    load files environment path = inEnvironment environment [] ↔
      ∃ settings, load files [] path = .ok settings ∧
        (environment.InOrder → inEnvironment environment [] = .ok settings) := by
  rw [load_eq_bind_of_holds present]
  cases made : load files [] path with
  | error fault =>
      apply iff_of_false
      · -- The environment is not even looked at, but it would have to have the same fault.
        intro failed
        have ofEnvironment := ofEnvironment_of_inEnvironment failed.symm
        exact (ofFile_of_load present made).not_ofEnvironment ofEnvironment
      · rintro ⟨settings, impossible, -⟩
        cases impossible
  | ok settings =>
      by_cases inOrder : environment.InOrder
      · obtain ⟨sections, found⟩ := Environment.succeeds_sections.2 inOrder
        rw [found]
        simp [inOrder, bind, Except.bind, pure, Except.pure, eq_comm]
      · rw [Environment.sections_eq_error_iff.2 ⟨rfl, inOrder⟩,
          inEnvironment_of_not_inOrder inOrder]
        exact iff_of_true rfl ⟨settings, rfl, fun ordered => absurd ordered inOrder⟩

end Settings

/-! ## Workspaces -/

namespace Workspace

theorem hold_eq_iff
    [Yaml.Reader]
    {workspace : Workspace}
    {path other : Path} :
    workspace.hold path = workspace.hold other ↔
      workspace.loadSettings path = workspace.loadSettings other := by
  unfold hold
  cases workspace.loadSettings path <;> cases workspace.loadSettings other <;>
    simp [bind, Except.bind, pure, Except.pure]

/-- The settings file can always be looked for. -/
theorem settingsPath_reachable {files : FileTree} :
    files.isOverlong settingsPath = false :=
  FileTree.isOverlong_eq_false (by decide) (by decide)

/-- A first load reads the file in the fallback place only if it is the only one. -/
theorem defaultPath_cases (workspace : Workspace) :
    ((workspace.files.holds settingsPath = true ∨ workspace.files.holds fallbackPath = false) ∧
        workspace.defaultPath = settingsPath) ∨
      workspace.files.holds settingsPath = false ∧
        workspace.files.holds fallbackPath = true ∧ workspace.defaultPath = fallbackPath := by
  unfold defaultPath
  cases workspace.files.holds settingsPath <;> cases workspace.files.holds fallbackPath <;> simp

/--
A reload without a path gives what a first load gives, settings or fault, exactly in three
cases: the settings file is in its place; there is none in the fallback place either; or the
one there is valid and, unless the environment is not in order, says what the environment
says without it.
-/
theorem reload_eq_settings_iff
    [Yaml.Reader]
    (files : FileTree)
    (environment : Environment) :
    let workspace : Workspace := ⟨files, environment, none⟩
    workspace.reload none = workspace.settings ↔
      files.holds settingsPath = true ∨ files.holds fallbackPath = false ∨
        ∃ settings, Settings.load files [] fallbackPath = .ok settings ∧
          (environment.InOrder → Settings.inEnvironment environment [] = .ok settings) := by
  intro workspace
  change workspace.hold settingsPath = workspace.hold workspace.defaultPath ↔ _
  rw [hold_eq_iff, loadSettings, loadSettings]
  rcases defaultPath_cases workspace with ⟨usual, same⟩ | ⟨absent, present, other⟩
  · rw [same]
    exact iff_of_true rfl (usual.imp_right Or.inl)
  · rw [other, Settings.load_of_not_holds settingsPath_reachable absent, eq_comm,
      Settings.load_eq_inEnvironment_iff present]
    change files.holds settingsPath = false at absent
    change files.holds fallbackPath = true at present
    simp [absent, present, workspace]

theorem ofYaml_fewRows :
    Document.ofYaml "runtime_options: {batch: {max_rows: 5}}".toList =
      .ok (.mapping [(.text "runtime_options".toList,
        .mapping [(.text "batch".toList, .mapping [(.text "max_rows".toList, .integer 5)])])]) := by
  have scanned :
      Yaml.Token.scan "runtime_options: {batch: {max_rows: 5}}".toList =
        [.blockMapping, .key, .scalar "runtime_options".toList true, .value,
          .flowMapping, .key, .scalar "batch".toList true, .value,
          .flowMapping, .key, .scalar "max_rows".toList true, .value, .scalar ['5'] true,
          .flowMappingEnd, .flowMappingEnd, .blockEnd, .streamEnd] := by
    cbv
  rw [Document.ofYaml, scanned]
  simp [Yaml.Node.ofTokens, Yaml.Node.take, Yaml.Node.takeBlockPairs, Yaml.Node.takeFlowPairs,
    Yaml.Node.takeOr, Yaml.Node.takeValue, Yaml.Node.afterComma, Yaml.Node.endOfDocument,
    Yaml.Node.blockPairEnds, bind, Except.bind, pure, Except.pure]
  rfl

/-- A file in the fallback place alone counts for a first load, but not for a reload. -/
theorem reload_ignores_fallback :
    let text := "runtime_options: {batch: {max_rows: 5}}".toList
    let files : FileTree := ⟨[(fallbackPath.parts, text)], [["config".toList]]⟩
    let workspace : Workspace := ⟨files, [], none⟩
    let first := Settings.Key.maxRows.set (5 : Int) Settings.initial
    workspace.settings = .ok (first, { workspace with held := some first }) ∧
      workspace.reload none = .ok (.initial, { workspace with held := some .initial }) ∧
        workspace.reload none ≠ workspace.settings := by
  intro text files workspace first
  have found : files.HasDocument fallbackPath _ := ⟨_, rfl, ofYaml_fewRows⟩
  have loaded : workspace.loadSettings fallbackPath = .ok first := by
    rw [loadSettings, Settings.load_of_hasDocument found]
    rfl
  have given : workspace.settings = .ok (first, { workspace with held := some first }) :=
    hold_eq_ok.2 ⟨loaded, rfl⟩
  have reloaded :
      workspace.reload none = .ok (.initial, { workspace with held := some .initial }) :=
    hold_eq_ok.2 ⟨rfl, rfl⟩
  refine ⟨given, reloaded, ?_⟩
  rw [given, reloaded]
  intro same
  have rows : (10000 : Int) = 5 :=
    congrArg (fun settings => settings.batch.maxRows) (Prod.mk.inj (Except.ok.inj same)).1
  exact absurd rows (by decide)

end Workspace
end LabelPress
