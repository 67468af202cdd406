import LabelPress.Proofs.CommandLine.Arguments
import LabelPress.Proofs.Label.Batch
import LabelPress.Proofs.Label.Pool
import LabelPress.Proofs.Session
import LabelPress.Proofs.Workspace.Load
import Mathlib

/-!
# Effects of the command line

What a run of the command line prints and changes.  Main statements: a run that does not end
with the exit code zero prints nothing and changes no file, one that does prints or writes
the same labels, and every fault of a file that has a message is reported with it.  They hold
for every reader of YAML, every pool of workers and all channels.

A run takes one of a few ways, by the first of its steps that fails.  Files are changed by
the last step alone, so only a run that could open its file can have changed one: a text that
the open file does not take has emptied it.
-/

namespace LabelPress
namespace CommandLine

/-! ## Outcomes -/

namespace Outcome

/-- The exit code; a fault that is not reported has none. -/
def code? : Outcome → Option Nat
  | .ended ending => some ending.code
  | .finished report => some report.code
  | .failed _ => none

/-- The text on the standard output. -/
def output : Outcome → Text
  | .ended .help => usage
  | .ended .misuse => []
  | .finished report => report.output
  | .failed _ => []

theorem code?_ofFault_ne
    (fault : Fault) :
    (ofFault fault).code? ≠ some 0 := by
  unfold ofFault
  split <;> simp [code?, Report.ofMessage]

theorem output_ofFault
    (fault : Fault) :
    (ofFault fault).output = [] := by
  unfold ofFault
  split <;> rfl

end Outcome

/-! ## Delivery -/

theorem Report.outcome_cases
    [Channels]
    (report : Report) :
    report.outcome = .finished report ∨ report.outcome = .failed .undelivered := by
  unfold outcome
  split
  · exact Or.inl rfl
  · exact Or.inr rfl

theorem Report.outcome_eq_finished
    [Channels]
    {report other : Report} :
    report.outcome = .finished other ↔
      other = report ∧ Channels.prints report.output = true ∧
        ∀ file ∈ report.written, Channels.stores file.2 = true := by
  unfold outcome
  split
  · rename_i taken
    rw [Bool.and_eq_true, Option.all_eq_true] at taken
    rw [Outcome.finished.injEq, eq_comm]
    exact ⟨fun same => ⟨same, taken.2, taken.1⟩, And.left⟩
  · rename_i refused
    rw [Bool.and_eq_true, Option.all_eq_true] at refused
    exact iff_of_false nofun fun ⟨_, prints, stores⟩ => refused ⟨stores, prints⟩

/-! ## Labels of a run -/

section
variable [Yaml.Reader] [Pool]

variable {workspace : Workspace} {clock : Moment} {arguments : Arguments} {settings : Settings}
  {files : FileTree}

/-- The arguments ask for labels that can be rendered, so many of them. -/
def Arguments.Renders
    (arguments : Arguments)
    (settings : Settings)
    (files : FileTree)
    (clock : Moment)
    (count : Nat)
    (labels : Text) : Prop :=
  ∃ design rows,
    Design.load files (Path.ofText arguments.design) = .ok design ∧
      arguments.loadRows files = .ok rows ∧ rows.length = count ∧
        count ≤ settings.batch.maxRows ∧
          design.runBatch settings clock rows (arguments.options settings) = .ok labels

theorem Arguments.run_eq_ok
    {report : Report} :
    arguments.run settings files clock = .ok report ↔
      ∃ count labels, arguments.Renders settings files clock count labels ∧
        report = arguments.deliver count labels := by
  rw [Arguments.run, bind_eq_ok]
  constructor
  · rintro ⟨design, loaded, rest⟩
    obtain ⟨rows, read, rest⟩ := bind_eq_ok.1 rest
    split at rest
    · cases rest
    · rename_i few
      obtain ⟨labels, rendered, same⟩ := bind_eq_ok.1 rest
      cases same
      refine ⟨rows.length, labels, ⟨design, rows, ?_⟩, rfl⟩
      exact ⟨mapError_eq_ok.1 loaded, mapError_eq_ok.1 read, rfl, Int.not_lt.1 few,
        mapError_eq_ok.1 rendered⟩
  · rintro ⟨_, labels, ⟨design, rows, loaded, read, rfl, few, rendered⟩, rfl⟩
    refine ⟨design, mapError_eq_ok.2 loaded, bind_eq_ok.2 ⟨rows, mapError_eq_ok.2 read, ?_⟩⟩
    rw [if_neg (Int.not_lt.2 few)]
    exact bind_eq_ok.2 ⟨labels, mapError_eq_ok.2 rendered, rfl⟩

/-- Labels that were delivered end a run with the exit code zero. -/
theorem code?_of_run
    {report : Report}
    (made : arguments.run settings files clock = .ok report) :
    (Outcome.finished report).code? = some 0 := by
  obtain ⟨count, labels, -, rfl⟩ := Arguments.run_eq_ok.1 made
  unfold Arguments.deliver
  split <;> rfl

/-- The labels start as often as they are counted. -/
theorem Arguments.Renders.occurrences_eq
    {count : Nat}
    {labels : Text}
    (ordered : Pool.KeepsOrder)
    (renders : arguments.Renders settings files clock count labels) :
    Text.occurrences Command.startMark (labels ++ ['\n']) = count := by
  obtain ⟨design, rows, -, -, rfl, -, rendered⟩ := renders
  exact Design.occurrences_renderBatch_append ((Design.runBatch_eq_ok ordered).1 rendered).2 _

variable [Channels]

/-- To a file that takes them, the labels are written and their starts are counted. -/
theorem Arguments.Renders.deliver_to_file
    {changed : FileTree}
    {count : Nat}
    {labels : Text}
    (ordered : Pool.KeepsOrder)
    (renders : arguments.Renders settings files clock count labels)
    (toFile : arguments.out ≠ [])
    (delivered : (arguments.deliver count labels).outcome =
      .finished (arguments.deliver count labels))
    (written : (arguments.deliver count labels).applyTo files = .ok changed) :
    (arguments.deliver count labels).output =
        arguments.out ++ ": labels=".toList ++
          Numeral.ofNat (Text.occurrences Command.startMark (labels ++ ['\n'])) ++ ['\n'] ∧
      ∃ place, files.Gains changed (Path.ofText arguments.out) place (labels ++ ['\n']) := by
  have report :
      arguments.deliver count labels =
        ⟨0, arguments.out ++ ": labels=".toList ++ Numeral.ofNat count ++ ['\n'], [],
          some (Path.ofText arguments.out, labels ++ ['\n'])⟩ := by
    rw [deliver, if_neg (by simpa using toFile)]
  have stored := (Report.outcome_eq_finished.1 delivered).2.2
  rw [report] at stored written ⊢
  have taken : Channels.stores (labels ++ ['\n']) = true := stored _ rfl
  simp only [Report.applyTo, taken, if_true] at written
  rw [renders.occurrences_eq ordered]
  exact ⟨rfl, FileTree.gains_of_write written⟩

/-! ## Ways of a run -/

/-- The ways of a run, by the first step that fails. -/
inductive Runs
    (workspace : Workspace)
    (clock : Moment)
    (arguments : Arguments) : Outcome × Workspace → Prop where
  | noSettings
      {fault : SettingsFault}
      (failed : workspace.settings = .error fault) :
      Runs workspace clock arguments (.failed (.settings fault), workspace)
  | noLog
      {settings : Settings}
      {next : Workspace}
      (given : workspace.settings = .ok (settings, next))
      (silent : settings.startsLog = false) :
      Runs workspace clock arguments (.failed .logging, next)
  | noLabels
      {settings : Settings}
      {next : Workspace}
      {fault : Fault}
      (given : workspace.settings = .ok (settings, next))
      (logs : settings.startsLog = true)
      (failed : arguments.run settings next.files clock = .error fault) :
      Runs workspace clock arguments (.ofFault fault, next)
  | notOpened
      {settings : Settings}
      {next : Workspace}
      {report : Report}
      {fault : FileFault}
      (given : workspace.settings = .ok (settings, next))
      (logs : settings.startsLog = true)
      (made : arguments.run settings next.files clock = .ok report)
      (failed : report.applyTo next.files = .error fault) :
      Runs workspace clock arguments (.failed (.file fault), next)
  | delivered
      {settings : Settings}
      {next : Workspace}
      {report : Report}
      {files : FileTree}
      (given : workspace.settings = .ok (settings, next))
      (logs : settings.startsLog = true)
      (made : arguments.run settings next.files clock = .ok report)
      (written : report.applyTo next.files = .ok files) :
      Runs workspace clock arguments (report.outcome, { next with files := files })

theorem runs_runArguments
    (workspace : Workspace)
    (clock : Moment)
    (arguments : Arguments) :
    Runs workspace clock arguments (runArguments workspace clock arguments) := by
  unfold runArguments
  split
  · rename_i failed
    exact .noSettings failed
  · rename_i given
    split
    · rename_i logs
      split
      · rename_i failed
        exact .noLabels given logs failed
      · rename_i made
        split
        · rename_i failed
          exact .notOpened given logs made failed
        · rename_i written
          exact .delivered given logs made written
    · rename_i silent
      exact .noLog given (Bool.eq_false_iff.2 silent)

/-! ## Effects -/

/-- A command line ends with the exit code zero, prints a text and changes no file. -/
@[mk_iff]
structure Prints
    (workspace : Workspace)
    (clock : Moment)
    (texts : List Text)
    (text : Text) : Prop where
  code?_eq : (run workspace clock texts).1.code? = some 0
  output_eq : (run workspace clock texts).1.output = text
  files_eq : (run workspace clock texts).2.files = workspace.files

/-- Without an output file, labels that can be rendered and printed are. -/
theorem prints_withoutOut
    {texts : List Text}
    {next : Workspace}
    {count : Nat}
    {labels : Text}
    (parsed : Arguments.parse texts = .ok arguments)
    (given : workspace.settings = .ok (settings, next))
    (logs : settings.startsLog = true)
    (renders : arguments.Renders settings next.files clock count labels)
    (prints : Channels.prints (labels ++ ['\n']) = true) :
    Prints workspace clock (withoutOut texts) (labels ++ ['\n']) := by
  have delivered :
      (⟨0, labels ++ ['\n'], [], none⟩ : Report).outcome =
        .finished ⟨0, labels ++ ['\n'], [], none⟩ :=
    Report.outcome_eq_finished.2 ⟨rfl, prints, nofun⟩
  have made :
      ({ arguments with out := [] } : Arguments).run settings next.files clock =
        .ok ⟨0, labels ++ ['\n'], [], none⟩ :=
    Arguments.run_eq_ok.2 ⟨count, labels, renders, rfl⟩
  have ran :
      run workspace clock (withoutOut texts) =
        (.finished ⟨0, labels ++ ['\n'], [], none⟩, next) := by
    rw [run, parse_withoutOut parsed]
    simp only [runArguments, given, logs, if_true, made, Report.applyTo, delivered]
  refine ⟨?_, ?_, ?_⟩
  · rw [ran]
    rfl
  · rw [ran]
    rfl
  · rw [ran, Workspace.eq_of_settings given]

/-- A command line whose output file has no name prints as without one. -/
theorem prints_withoutOut_iff
    {texts : List Text}
    {text : Text}
    (parsed : Arguments.parse texts = .ok arguments)
    (noFile : arguments.out = []) :
    Prints workspace clock (withoutOut texts) text ↔ Prints workspace clock texts text := by
  have sameArguments : ({ arguments with out := [] } : Arguments) = arguments := by
    rw [← noFile]
  have sameRun : run workspace clock (withoutOut texts) = run workspace clock texts := by
    rw [run, run, parse_withoutOut parsed, parsed, sameArguments]
  simp only [prints_iff, sameRun]

/-- Arguments that are not run with success, up to delivery, print and change nothing. -/
theorem Runs.effectless
    {result : Outcome × Workspace}
    (runs : Runs workspace clock arguments result)
    (failed : result.1.code? ≠ some 0)
    (early : result.1 ≠ .failed .undelivered) :
    result.1.output = [] ∧ result.2.files = workspace.files := by
  cases runs with
  | noSettings _ => exact ⟨rfl, rfl⟩
  | noLog given _ =>
      rw [Workspace.eq_of_settings given]
      exact ⟨rfl, rfl⟩
  | @noLabels _ _ fault given _ _ =>
      rw [Workspace.eq_of_settings given]
      exact ⟨Outcome.output_ofFault fault, rfl⟩
  | notOpened given _ _ _ =>
      rw [Workspace.eq_of_settings given]
      exact ⟨rfl, rfl⟩
  | @delivered _ _ report _ _ _ made _ =>
      rcases report.outcome_cases with finished | undelivered
      · rw [finished] at failed
        exact absurd (code?_of_run made) failed
      · exact absurd undelivered early

/-- Arguments that are run with success come to a report on labels. -/
theorem Runs.exists_labels
    {result : Outcome × Workspace}
    (runs : Runs workspace clock arguments result)
    (done : result.1.code? = some 0) :
    ∃ settings next count labels files,
      workspace.settings = .ok (settings, next) ∧ settings.startsLog = true ∧
        arguments.Renders settings next.files clock count labels ∧
          (arguments.deliver count labels).outcome =
              .finished (arguments.deliver count labels) ∧
            (arguments.deliver count labels).applyTo next.files = .ok files ∧
              result =
                (.finished (arguments.deliver count labels), { next with files := files }) := by
  cases runs with
  | noSettings _ => cases done
  | noLog _ _ => cases done
  | @noLabels _ _ fault _ _ _ => exact absurd done (Outcome.code?_ofFault_ne fault)
  | notOpened _ _ _ _ => cases done
  | @delivered settings next report files given logs made written =>
      obtain ⟨count, labels, renders, rfl⟩ := Arguments.run_eq_ok.1 made
      rcases (arguments.deliver count labels).outcome_cases with finished | undelivered
      · rw [finished]
        exact ⟨settings, next, count, labels, files, given, logs, renders, finished, written, rfl⟩
      · rw [undelivered] at done
        cases done

/-- Labels that can be rendered are delivered to a file that can be opened. -/
theorem run_of_renders
    {texts : List Text}
    {next : Workspace}
    {count : Nat}
    {labels : Text}
    (parsed : Arguments.parse texts = .ok arguments)
    (given : workspace.settings = .ok (settings, next))
    (logs : settings.startsLog = true)
    (renders : arguments.Renders settings workspace.files clock count labels)
    (opened : Succeeds ((arguments.deliver count labels).applyTo workspace.files)) :
    (run workspace clock texts).1 = (arguments.deliver count labels).outcome := by
  have kept : next.files = workspace.files := by
    rw [Workspace.eq_of_settings given]
  have made := Arguments.run_eq_ok.2 ⟨count, labels, renders, rfl⟩
  obtain ⟨files, written⟩ := opened
  rw [← kept] at made written
  simp only [run, parsed, runArguments, given, logs, if_true, made, written]

/-- Wrong arguments end a run before it looks at any file. -/
theorem run_of_misuse
    (workspace : Workspace)
    (clock : Moment)
    {texts : List Text}
    {ending : Ending}
    (parsed : Arguments.parse texts = .error ending)
    (noHelp : Arguments.parse texts ≠ .error .help) :
    run workspace clock texts = (.ended .misuse, workspace) := by
  cases ending with
  | help => exact absurd parsed noHelp
  | misuse => rw [run, parsed]

theorem runs_run
    {texts : List Text}
    (parsed : Arguments.parse texts = .ok arguments) :
    Runs workspace clock arguments (run workspace clock texts) := by
  rw [run, parsed]
  exact runs_runArguments workspace clock arguments

/-- A run with the exit code zero prints a text or leaves it in its file. -/
theorem exists_delivery
    {texts : List Text}
    (ordered : Pool.KeepsOrder)
    (parsed : Arguments.parse texts = .ok arguments)
    (done : (run workspace clock texts).1.code? = some 0) :
    ∃ text,
      (Channels.prints text = true → Prints workspace clock (withoutOut texts) text) ∧
        (arguments.out = [] → Prints workspace clock texts text) ∧
        (arguments.out ≠ [] →
          (run workspace clock texts).1.output =
              arguments.out ++ ": labels=".toList ++
                Numeral.ofNat (Text.occurrences Command.startMark text) ++ ['\n'] ∧
            ∃ place,
              workspace.files.Gains (run workspace clock texts).2.files
                (Path.ofText arguments.out) place text) := by
  obtain ⟨settings, reached, count, labels, files, given, logs, renders, finished, written,
    came⟩ := (runs_run parsed).exists_labels done
  have printed := prints_withoutOut parsed given logs renders
  refine ⟨_, printed, ?_, ?_⟩
  · intro noFile
    have shown := (Report.outcome_eq_finished.1 finished).2.1
    rw [Arguments.deliver, noFile] at shown
    exact (prints_withoutOut_iff parsed noFile).1 (printed shown)
  · intro toFile
    have delivered := renders.deliver_to_file ordered toFile finished written
    rw [Workspace.eq_of_settings given] at delivered
    rw [came]
    exact delivered

end

/-- A folder with the file of a design without elements. -/
def blankDesign : FileTree :=
  ⟨[(["d".toList], "{width_mm: 1, height_mm: 1}".toList)], []⟩

theorem ofYaml_blankDesign :
    Document.ofYaml "{width_mm: 1, height_mm: 1}".toList =
      .ok (.mapping
        [(.text "width_mm".toList, .integer 1), (.text "height_mm".toList, .integer 1)]) := by
  have scanned :
      Yaml.Token.scan "{width_mm: 1, height_mm: 1}".toList =
        [.flowMapping, .key, .scalar "width_mm".toList true, .value, .scalar ['1'] true,
          .flowEntry, .key, .scalar "height_mm".toList true, .value, .scalar ['1'] true,
          .flowMappingEnd, .streamEnd] := by
    cbv
  rw [Document.ofYaml, scanned]
  simp [Yaml.Node.ofTokens, Yaml.Node.take, Yaml.Node.takeFlowPairs, Yaml.Node.takeOr,
    Yaml.Node.takeValue, Yaml.Node.afterComma, Yaml.Node.endOfDocument, bind, Except.bind,
    pure, Except.pure]
  rfl

/-- The moment of a run. -/
def epochStart : Moment :=
  .midnight Date.epoch

/-- A single worker keeps the order of its jobs. -/
theorem keepsOrder_inOrder : Pool.KeepsOrder :=
  fun _ _ => rfl

theorem renders_blankDesign (out : Text) :
    Arguments.Renders ⟨"d".toList, [], 0, out⟩ .initial blankDesign epochStart 1
      "^XA\n^PW8\n^LL8\n\n^XZ".toList := by
  have found :
      blankDesign.read (Path.ofText "d".toList) = .ok "{width_mm: 1, height_mm: 1}".toList := rfl
  have loaded :
      Design.load blankDesign (Path.ofText "d".toList) =
        .ok ⟨none, .ofInt 1, .ofInt 1, []⟩ := by
    rw [Design.load_eq_bind, Document.load_of_text found]
    change (Document.ofYaml _).mapError _ >>= _ = _
    rw [ofYaml_blankDesign]
    rfl
  have options :
      Arguments.options ⟨"d".toList, [], 0, out⟩ .initial = Options.ofResolution 203 := rfl
  refine ⟨_, _, loaded, rfl, rfl, by decide, ?_⟩
  rw [options, Design.runBatch_eq_ok keepsOrder_inOrder]
  refine ⟨⟨_, rfl⟩, ?_⟩
  simp only [Design.renderBatch, Design.renderFrom, Design.render, Design.program,
    Design.visibleElements, Design.drawingOrder, List.mergeSort_nil]
  rfl

section
variable [Yaml.Reader] [Pool]

variable {workspace : Workspace} {clock : Moment} {arguments : Arguments} {settings : Settings}
  {files : FileTree}

/-- The first of the files that cannot be loaded gives a fault. -/
def Arguments.LoadFails
    (arguments : Arguments)
    (files : FileTree)
    (fault : LoadFault) : Prop :=
  Design.load files (Path.ofText arguments.design) = .error fault ∨
    Succeeds (Design.load files (Path.ofText arguments.design)) ∧
      arguments.loadRows files = .error fault

theorem Arguments.LoadFails.run_eq
    {fault : LoadFault}
    (fails : arguments.LoadFails files fault) :
    arguments.run settings files clock = .error (.load fault) := by
  rw [Arguments.run]
  rcases fails with design | ⟨⟨design, loaded⟩, rows⟩
  · rw [design]
    rfl
  · rw [loaded, rows]
    rfl

variable [Channels]

/-- A file that cannot be loaded ends a run with its fault. -/
theorem run_of_loadFails
    {texts : List Text}
    {next : Workspace}
    {fault : LoadFault}
    (parsed : Arguments.parse texts = .ok arguments)
    (given : workspace.settings = .ok (settings, next))
    (logs : settings.startsLog = true)
    (fails : arguments.LoadFails workspace.files fault) :
    run workspace clock texts = (.ofFault (.load fault), next) := by
  have kept : next.files = workspace.files := by
    rw [Workspace.eq_of_settings given]
  rw [← kept] at fails
  simp only [run, parsed, runArguments, given, logs, if_true, fails.run_eq]

/--
A load fails without a report exactly if a folder is at the path, if a name on the way to it is
too long, if the reader of YAML fails by no fault of YAML, if a field of a design has a name
that is no text, or if a key of a row is an integer of more digits than a text can have.  Once
its settings are loaded and its log is set up, the command line answers every fault that has a
message by its error line and the exit code one, and ends with every other fault.
-/
theorem unreported_loads
    (workspace : Workspace)
    (path : Path) :
    (Unreported (Design.load workspace.files path) ↔
        workspace.files.Illegible path ∨
          ∃ entries, workspace.files.HasDocument path (.mapping entries) ∧
            ∃ entry ∈ Design.unwrap entries, ∀ name, entry.1 ≠ .text name) ∧
      (Unreported (Record.load workspace.files path) ↔
        workspace.files.Illegible path ∨
          ∃ rows : List Document.Entries,
            workspace.files.HasDocument path (.sequence (rows.map .mapping)) ∧
              ∃ row ∈ rows, ∃ entry ∈ row, entry.1.IsLongInteger) ∧
        ∀ clock texts arguments settings next fault,
          Arguments.parse texts = .ok arguments → workspace.settings = .ok (settings, next) →
            settings.startsLog = true → arguments.LoadFails workspace.files fault →
              (∀ message, fault.message? = some message →
                run workspace clock texts =
                  (.finished ⟨1, [], "ERROR ".toList ++ message ++ ['\n'], none⟩, next)) ∧
                (fault.message? = none →
                  run workspace clock texts = (.failed (.load fault), next)) := by
  refine ⟨Design.unreported_load, Record.unreported_load, ?_⟩
  intro clock texts arguments settings next fault parsed given logs fails
  rw [run_of_loadFails parsed given logs fails]
  constructor
  · intro message told
    simp only [Outcome.ofFault, Fault.message?, told]
    rfl
  · intro untold
    simp only [Outcome.ofFault, Fault.message?, untold]

end

theorem unreported_loads_missing_design :
    let arguments : Arguments := ⟨"d".toList, [], 0, []⟩
    let message := "文件不存在: d".toList
    Arguments.parse ["d".toList] = .ok arguments ∧
      arguments.LoadFails .empty (.missing (Path.ofText "d".toList)) ∧
        run .empty epochStart ["d".toList] =
          (.finished ⟨1, [], "ERROR ".toList ++ message ++ ['\n'], none⟩,
            { Workspace.empty with held := some .initial }) := by
  intro arguments message
  have parsed : Arguments.parse ["d".toList] = .ok arguments := rfl
  have fails : arguments.LoadFails .empty (.missing (Path.ofText "d".toList)) := Or.inl rfl
  have answered :=
    (unreported_loads .empty (Path.ofText "d".toList)).2.2 epochStart _ _ _ _ _ parsed rfl rfl
      fails
  exact ⟨parsed, fails, answered.1 message rfl⟩

/-- A date in a thirteenth month is not reported, neither in a design nor in rows. -/
theorem unreported_load_impossible_date :
    let files : FileTree := ⟨[(["d".toList], "2025-13-45".toList)], []⟩
    let path := Path.ofText "d".toList
    Unreported (Design.load files path) ∧ Unreported (Record.load files path) ∧
      (run ⟨files, [], none⟩ epochStart ["d".toList]).1.code? = none := by
  intro files path
  have scanned :
      Yaml.Token.scan "2025-13-45".toList = [.scalar "2025-13-45".toList true, .streamEnd] := by
    cbv
  have bad : Document.ofYaml "2025-13-45".toList = .error .badValue := by
    rw [Document.ofYaml, scanned]
    simp [Yaml.Node.ofTokens, Yaml.Node.take, Yaml.Node.endOfDocument, bind, Except.bind, pure,
      Except.pure]
    rfl
  have illegible : files.Illegible path := .reader _ _ rfl bad rfl
  have design := Design.unreported_load.2 (Or.inl illegible)
  refine ⟨design, Record.unreported_load.2 (Or.inl illegible), ?_⟩
  obtain ⟨fault, failed, untold⟩ := design
  have parsed : Arguments.parse ["d".toList] = .ok ⟨"d".toList, [], 0, []⟩ := rfl
  have given :
      Workspace.settings ⟨files, [], none⟩ = .ok (.initial, ⟨files, [], some .initial⟩) := rfl
  rw [run_of_loadFails parsed given rfl (Or.inl failed), Outcome.ofFault, Fault.message?, untold]
  rfl

end CommandLine
end LabelPress
