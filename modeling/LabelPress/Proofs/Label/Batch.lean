import LabelPress.Proofs.Label.Field
import LabelPress.Proofs.Label.Frames
import LabelPress.Proofs.Print.Framing
import Mathlib.Data.Set.List

/-!
# Batches of labels

A batch is one text with the labels of its rows one after the other.  Main statement: cut
before every start of a label, a rendered batch falls into the labels of its rows, each as
it is rendered alone at its place.

The command that starts a label stands at the start of every label and nowhere else: it
begins with a caret, which no data holds, and no other command has its name.
-/

namespace LabelPress

namespace Command

/-- The name of the command that starts a label. -/
def startName : Text :=
  ['X', 'A']

/-- The command that starts a label, as it is written. -/
def startMark : Text :=
  '^' :: startName

/-- A command is found by its name, if all names are of one length. -/
theorem isPrefixOf_write_append
    {command : Command}
    {name : Text}
    (sameLength : command.name.length = name.length)
    (rest : Text) :
    ('^' :: name).isPrefixOf (command.write ++ rest) = decide (command.name = name) := by
  rw [Bool.eq_iff_iff, List.isPrefixOf_iff_prefix, decide_eq_true_iff, write, List.cons_append,
    List.append_assoc, List.prefix_cons_inj]
  constructor
  · intro begins
    have inside : name <+: command.name :=
      List.prefix_of_prefix_length_le begins (List.prefix_append _ _) (Nat.le_of_eq sameLength.symm)
    exact (inside.eq_of_length sameLength.symm).symm
  · rintro rfl
    exact List.prefix_append _ _

/-- A mark of two letters stands in a text once for each command of that name. -/
theorem Spells.occurrences_append
    {text : Text}
    {commands : List Command}
    {name : Text}
    (spells : Spells text commands)
    (twoLetters : name.length = 2)
    (rest : Text) :
    Text.occurrences ('^' :: name) (text ++ rest) =
      commands.countP (fun command => command.name = name) +
        Text.occurrences ('^' :: name) rest := by
  induction spells with
  | nil => simp
  | @cons command breaks behind commands framed onlyBreaks none others inductionHypothesis =>
      have absent : '^' ∉ command.name ++ command.operand ++ breaks := by
        rw [List.mem_append, not_or]
        refine ⟨framed.caret_not_mem, ?_⟩
        intro member
        exact absurd (onlyBreaks '^' member) (by decide)
      have sameLength : command.name.length = name.length :=
        framed.twoLetters.trans twoLetters.symm
      have here := isPrefixOf_write_append sameLength (breaks ++ (behind ++ rest))
      have split :
          command.write ++ breaks ++ behind ++ rest =
            '^' :: ((command.name ++ command.operand ++ breaks) ++ (behind ++ rest)) := by
        simp [write]
      rw [split, Text.occurrences_cons, Text.occurrences_append_of_not_mem absent,
        inductionHypothesis, ← split, List.append_assoc, List.append_assoc, here,
        List.countP_cons]
      omega

end Command

open Command

theorem FieldBody.name_ne_startName
    (body : FieldBody) :
    ∀ command ∈ body.commands, command.name ≠ startName := by
  have data : "FD".toList ≠ startName := by decide
  cases body with
  | text orientation height payload =>
      have font : "A0".toList ≠ startName := by decide
      exact List.forall_mem_cons.2 ⟨font, List.forall_mem_singleton.2 data⟩
  | barcode symbology layout payload =>
      have code : symbology.mnemonic ≠ startName := by cases symbology <;> decide
      rw [← symbology.take_command layout] at code
      exact List.forall_mem_cons.2 ⟨code, List.forall_mem_singleton.2 data⟩
  | qr magnification level payload =>
      have code : "BQ".toList ≠ startName := by decide
      exact List.forall_mem_cons.2 ⟨code, List.forall_mem_singleton.2 data⟩
  | box width height thickness =>
      have shape : "GB".toList ≠ startName := by decide
      exact List.forall_mem_singleton.2 shape
  | circle diameter thickness =>
      have shape : "GC".toList ≠ startName := by decide
      exact List.forall_mem_singleton.2 shape

theorem Field.name_ne_startName
    (field : Field) :
    ∀ command ∈ field.commands, command.name ≠ startName := by
  have origin : "FO".toList ≠ startName := by decide
  have finish : "FS".toList ≠ startName := by decide
  rw [commands, List.cons_append, List.forall_mem_cons, List.forall_mem_append]
  exact ⟨origin, field.body.name_ne_startName, List.forall_mem_singleton.2 finish⟩

namespace Program

variable (program : Program)

/-- A label has one starting command. -/
theorem countP_startName :
    program.commands.countP (fun command => command.name = startName) = 1 := by
  have fields :
      (program.fields.flatMap Field.commands).countP (fun command => command.name = startName) =
        0 := by
    rw [List.countP_eq_zero]
    intro command member
    obtain ⟨field, -, inside⟩ := List.mem_flatMap.1 member
    simpa using field.name_ne_startName command inside
  rw [commands, List.countP_append, List.countP_append, fields]
  rfl

/-- In a label and behind it, starts are counted from the one that it begins with. -/
theorem occurrences_write_append (rest : Text) :
    Text.occurrences startMark (program.write ++ rest) =
      1 + Text.occurrences startMark rest := by
  rw [startMark, program.spells.occurrences_append rfl, program.countP_startName]

/-- The places at which a label and what follows it start, but for the first one. -/
theorem occurrences_tail_write_append (rest : Text) :
    Text.occurrences startMark (program.write.tail ++ rest) =
      Text.occurrences startMark rest := by
  have all := program.occurrences_write_append rest
  have begins : startMark.isPrefixOf (program.write ++ rest) := rfl
  have split : program.write ++ rest = '^' :: (program.write.tail ++ rest) := rfl
  rw [split] at begins all
  rw [Text.occurrences_cons, if_pos begins] at all
  omega

theorem write_ne_nil :
    program.write ≠ [] :=
  List.cons_ne_nil _ _

/-- The end of a label is no line break. -/
theorem dropBreak_write :
    Text.dropBreak program.write = program.write := by
  have finish : (Command.bare "XZ").write <:+ program.write :=
    Text.isSuffix_join _ [_, _, _, _] _
  obtain ⟨front, shape⟩ := finish
  rw [Text.dropBreak, ← shape, List.getLast?_append]
  rfl

theorem startMark_isPrefix_join (others : List Program) :
    startMark <+: Text.join ['\n'] ((program :: others).map write) := by
  cases others with
  | nil => exact ⟨_, rfl⟩
  | cons next others => exact ⟨_, rfl⟩

end Program

/-- The labels that a text falls into, cut before every start of a label. -/
def cutLabels (text : Text) : List Text :=
  (Text.cutBefore startMark text).map Text.dropBreak

namespace Program

/-- Labels one after the other start once for each of them, and behind them as ever. -/
theorem occurrences_join_write_append
    (programs : List Program)
    (rest : Text) :
    Text.occurrences startMark (Text.join ['\n'] (programs.map write) ++ rest) =
      programs.length + Text.occurrences startMark rest := by
  induction programs with
  | nil => simp [Text.join]
  | cons program others inductionHypothesis =>
      cases others with
      | nil => exact program.occurrences_write_append rest
      | cons next others =>
          have noBreak :
              Text.occurrences startMark
                  (['\n'] ++ (Text.join ['\n'] ((next :: others).map write) ++ rest)) =
                Text.occurrences startMark
                  (Text.join ['\n'] ((next :: others).map write) ++ rest) :=
            Text.occurrences_append_of_not_mem (by decide) _
          rw [List.map_cons, List.map_cons, Text.join, ← List.map_cons, List.append_assoc,
            List.append_assoc, program.occurrences_write_append, noBreak, inductionHypothesis]
          simp only [List.length_cons]
          omega

theorem occurrences_join_write (programs : List Program) :
    Text.occurrences startMark (Text.join ['\n'] (programs.map write)) = programs.length := by
  have behind := occurrences_join_write_append programs []
  rwa [List.append_nil] at behind

/-- Labels one after the other are told apart. -/
theorem cutLabels_join_write (programs : List Program) :
    cutLabels (Text.join ['\n'] (programs.map write)) = programs.map write := by
  have solid : startMark ≠ [] := List.cons_ne_nil _ _
  induction programs with
  | nil => rfl
  | cons program others inductionHypothesis =>
      cases others with
      | nil =>
          have free := program.occurrences_tail_write_append []
          have piece := Text.cutBefore_append solid program.write_ne_nil free (.inl rfl)
          rw [List.append_nil] at piece
          rw [List.map_singleton, Text.join, cutLabels, piece, List.map_cons,
            program.dropBreak_write]
          rfl
      | cons next others =>
          -- The joining line break stays with the label before it.
          have free :
              Text.occurrences startMark
                  ((program.write ++ ['\n']).tail ++
                    Text.join ['\n'] ((next :: others).map write)) =
                Text.occurrences startMark (Text.join ['\n'] ((next :: others).map write)) := by
            rw [List.tail_append_of_ne_nil program.write_ne_nil, List.append_assoc,
              program.occurrences_tail_write_append]
            exact Text.occurrences_append_of_not_mem (by decide) _
          have piece :=
            Text.cutBefore_append solid (List.append_ne_nil_of_right_ne_nil _ (by decide)) free
              (.inr (next.startMark_isPrefix_join others))
          rw [List.map_cons, List.map_cons, Text.join, ← List.map_cons, cutLabels, piece,
            List.map_cons, Text.dropBreak_append_break, ← cutLabels, inductionHypothesis]

end Program

/-- A batch leaves options with a moment as they are. -/
theorem Options.atMoment_of_now
    {options : Options}
    {now : Moment}
    (fixed : options.now = some now)
    (clock : Moment) :
    options.atMoment clock = options := by
  rw [atMoment, fixed, Option.getD_some, ← fixed]

/-- Options with a moment of their own do not look at the clock. -/
theorem Options.context_of_now
    {options : Options}
    {now : Moment}
    (fixed : options.now = some now)
    (clock otherClock : Moment) :
    options.context clock = options.context otherClock := by
  unfold context
  rw [fixed]
  rfl

namespace Design

variable {design : Design} {settings : Settings} {clock : Moment} {options : Options}

/-- The labels of a list of rows are those of its rows at their places. -/
theorem renderFrom_eq_ok
    {batchSize first : Nat}
    {rows : List Row}
    {labels : List Text}
    (rendered : renderFrom design settings clock options batchSize first rows = .ok labels) :
    labels.map .ok =
      rows.mapIdx fun place row =>
        design.render settings clock row (options.forRow (first + place : Nat) batchSize) := by
  induction rows generalizing first labels with
  | nil =>
      cases rendered
      rfl
  | cons row rows inductionHypothesis =>
      obtain ⟨label, here, rendered⟩ := bind_eq_ok.1 rendered
      obtain ⟨others, later, rendered⟩ := bind_eq_ok.1 rendered
      cases rendered
      have shift (place : Nat) : first + 1 + place = first + (place + 1) := by omega
      have rest := inductionHypothesis later
      simp only [shift] at rest
      rw [List.map_cons, List.mapIdx_cons, rest, ← here]
      rfl

theorem exists_programs_of_renderFrom
    {batchSize first : Nat}
    {rows : List Row}
    {labels : List Text}
    (rendered : renderFrom design settings clock options batchSize first rows = .ok labels) :
    ∃ programs : List Program, programs.map Program.write = labels := by
  apply (Set.range_list_map Program.write).ge
  intro label member
  have outcome : (.ok label : Except RenderFault Text) ∈ labels.map .ok :=
    List.mem_map_of_mem member
  rw [renderFrom_eq_ok rendered] at outcome
  obtain ⟨place, inside, printed⟩ := List.mem_mapIdx.1 outcome
  obtain ⟨-, program, -, -, rfl⟩ := render_eq_ok printed
  exact ⟨program, rfl⟩

/-- A batch starts as many labels as it has rows, whatever is behind it. -/
theorem occurrences_renderBatch_append
    {rows : List Row}
    {text : Text}
    (rendered : design.renderBatch settings clock rows options = .ok text)
    (rest : Text) :
    Text.occurrences startMark (text ++ rest) =
      rows.length + Text.occurrences startMark rest := by
  obtain ⟨labels, made, joined⟩ := bind_eq_ok.1 rendered
  cases joined
  have each := renderFrom_eq_ok made
  obtain ⟨programs, rfl⟩ := exists_programs_of_renderFrom made
  have count : programs.length = rows.length := by
    simpa using congrArg List.length each
  rw [Program.occurrences_join_write_append, count]

/-- With a moment of its own, a label does not depend on the clock. -/
theorem render_of_now
    {now : Moment}
    (fixed : options.now = some now)
    (row : Row)
    (otherClock : Moment) :
    design.render settings clock row options = design.render settings otherClock row options := by
  unfold render
  rw [Options.context_of_now fixed clock otherClock]

/--
A batch with a moment of its own starts as many labels as it has rows and, cut before each
of them, falls into the labels of its rows, each rendered at its place.
-/
theorem renderBatch_cut
    {now : Moment}
    {rows : List Row}
    {text : Text}
    (fixed : options.now = some now)
    (nonempty : rows ≠ [])
    (rendered : design.renderBatch settings clock rows options = .ok text) :
    Text.occurrences startMark text = rows.length ∧
      ∀ otherClock,
        (cutLabels text).map .ok =
          rows.mapIdx fun place row =>
            design.render settings otherClock row (options.forRow place rows.length) := by
  have size : max rows.length 1 = rows.length :=
    Nat.max_eq_left (List.length_pos_iff.2 nonempty)
  obtain ⟨labels, made, joined⟩ := bind_eq_ok.1 rendered
  cases joined
  rw [Options.atMoment_of_now fixed clock, size] at made
  have each := renderFrom_eq_ok made
  obtain ⟨programs, rfl⟩ := exists_programs_of_renderFrom made
  have count : programs.length = rows.length := by
    simpa using congrArg List.length each
  rw [Program.occurrences_join_write, Program.cutLabels_join_write]
  refine ⟨count, ?_⟩
  intro otherClock
  have same (place : Nat) (row : Row) :
      design.render settings clock row (options.forRow (0 + place : Nat) rows.length) =
        design.render settings otherClock row (options.forRow place rows.length) := by
    have moved : (options.forRow place rows.length).now = some now := fixed
    rw [Nat.zero_add]
    exact render_of_now moved row otherClock
  simp only [each, same]

theorem renderBatch_cut_marked_data :
    let element : Element :=
      { Element.ofKind .text with
        x := .ofInt 1
        y := .ofInt 2
        rotation := .null
        binding := some "name".toList
        fontSize := some (.ofInt 12) }
    let design : Design := ⟨none, .ofInt 50, .ofInt 30, [element]⟩
    let rows : List Row :=
      [[(.name "name".toList, .text "^XA\n".toList)], [(.name "name".toList, .text "\n^XA".toList)]]
    let now : Moment := .midnight ⟨2026, 3, 15, by decide, by decide, by decide⟩
    let options : Options := { Options.ofResolution 203 with now := some now }
    let text :=
      ("^XA\n^PW400\n^LL240\n^FO8,16^A0N,16,16^FD XA\n^FS\n^XZ\n" ++
        "^XA\n^PW400\n^LL240\n^FO8,16^A0N,16,16^FD\n XA^FS\n^XZ").toList
    design.renderBatch .initial now rows options = .ok text ∧
      Text.occurrences startMark text = 2 ∧
        ∀ otherClock,
          (cutLabels text).map .ok =
            rows.mapIdx fun place row =>
              design.render .initial otherClock row (options.forRow place 2) := by
  intro element design rows now options text
  have rendered : design.renderBatch .initial now rows options = .ok text := by
    simp only [renderBatch, rows, renderFrom, render, program]
    rw [@visibleElements_singleton design element rfl rfl]
    simp only [design, element, now, text, options]
    rfl
  exact ⟨rendered, renderBatch_cut rfl (List.cons_ne_nil _ _) rendered⟩

end Design
end LabelPress
