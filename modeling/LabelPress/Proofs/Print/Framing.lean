import LabelPress.Print.Program
import LabelPress.Proofs.Text.Search
import LabelPress.Proofs.Text.Trim

/-!
# Framing

A printer finds the commands of a text by cutting it at the carets.  Main statement: of
every written program it finds exactly the commands, each with its name and operand, so
data cannot add, remove or change a command.

Operands are numerals and letters, which hold neither a caret nor a line break, except
for field data, which may break lines but is followed by the end of its field.
-/

namespace LabelPress

/-- A character that neither starts a command nor ends a line. -/
def isOperandChar (c : Char) : Bool :=
  c != '^' && c != '~' && c != '\n'

/-- No character of a text starts a command or ends a line. -/
def Unmarked (text : Text) : Prop :=
  ∀ c ∈ text, isOperandChar c

instance (text : Text) : Decidable (Unmarked text) :=
  inferInstanceAs (Decidable (∀ c ∈ text, isOperandChar c))

namespace Unmarked

theorem append
    {left right : Text}
    (first : Unmarked left)
    (second : Unmarked right) :
    Unmarked (left ++ right) := by
  intro c member
  exact (List.mem_append.1 member).elim (first c) (second c)

theorem singleton
    {c : Char}
    (plain : isOperandChar c) :
    Unmarked [c] := by
  simpa [Unmarked] using plain

theorem not_mem
    {c : Char}
    {text : Text}
    (unmarked : Unmarked text)
    (marked : isOperandChar c = false) :
    c ∉ text := by
  intro member
  simp [unmarked c member] at marked

theorem operands
    {parts : List Text}
    (each : ∀ part ∈ parts, Unmarked part) :
    Unmarked (Symbology.operands parts) := by
  cases parts with
  | nil => simp [Symbology.operands, Unmarked]
  | cons first others =>
      apply append (each first (List.mem_cons_self ..))
      intro c member
      obtain ⟨part, inside, here⟩ := List.mem_flatMap.1 member
      rcases List.mem_cons.1 here with rfl | here
      · decide
      · exact each part (List.mem_cons_of_mem first inside) c here

theorem ofNat (n : Nat) :
    Unmarked (Numeral.ofNat n) := by
  intro c member
  have digit := Nat.isDigit_of_mem_toDigits (by decide) (by decide) member
  have different (marker : Char) (other : marker.isDigit = false) : c ≠ marker := by
    rintro rfl
    simp [digit] at other
  simp [isOperandChar, different '^' rfl, different '~' rfl, different '\n' rfl]

theorem ofInt (n : Int) :
    Unmarked (Numeral.ofInt n) := by
  cases n with
  | ofNat n => exact ofNat n
  | negSucc n => exact append (singleton (c := '-') (by decide)) (ofNat (n + 1))

theorem orientation (orientation : Orientation) :
    Unmarked [orientation.code] := by
  cases orientation <;> decide

theorem level (level : CorrectionLevel) :
    Unmarked [level.code] := by
  cases level <;> decide

end Unmarked

/-- The two letters of the command of a symbology. -/
def Symbology.mnemonic : Symbology → Text
  | .code39 => ['B', '3']
  | .code93 => ['B', 'A']
  | .ean13 => ['B', 'E']
  | .ean8 => ['B', '8']
  | .upc => ['B', 'U']
  | .itf14 => ['B', 'I']
  | .codabar => ['B', 'K']
  | .dataMatrix => ['B', 'X']
  | .pdf417 => ['B', '7']
  | .aztec => ['B', 'O']
  | .maxiCode => ['B', 'D']
  | .postnet | .planet => ['B', 'Z']
  | .code128 | .msi | .gs1Code128 | .gs1DataBar | .gs1DataBarStacked
  | .gs1DataBarExpanded => ['B', 'C']

/-- The command of a symbology is its two letters with operands. -/
theorem Symbology.command_eq
    (symbology : Symbology)
    (layout : Layout) :
    ∃ parts,
      (∀ part ∈ parts, Unmarked part) ∧
        symbology.command layout = symbology.mnemonic ++ operands parts := by
  have turn := Unmarked.orientation layout.orientation
  have height := Unmarked.ofInt layout.height
  have magnification := Unmarked.ofInt layout.magnification
  have columns := Unmarked.ofInt layout.columns
  have readable : Unmarked [if layout.readable then 'Y' else 'N'] := by
    split <;> decide
  have letters : Unmarked ['N'] ∧ Unmarked ['Y'] ∧ Unmarked ['A'] ∧ Unmarked ['0'] ∧
      Unmarked ['1'] ∧ Unmarked "200".toList := by
    decide
  cases symbology <;>
    refine ⟨_, ?_, rfl⟩ <;>
      simp_all only [List.mem_cons, List.not_mem_nil, or_false, forall_eq_or_imp, forall_eq,
        and_self]

theorem Symbology.take_command
    (symbology : Symbology)
    (layout : Layout) :
    (symbology.command layout).take 2 = symbology.mnemonic := by
  cases symbology <;> rfl

namespace Command

/-- The name of the command that holds field data. -/
def dataName : Text :=
  ['F', 'D']

/-- The command holds field data. -/
def IsData (command : Command) : Prop :=
  command.name = dataName

instance (command : Command) : Decidable command.IsData :=
  inferInstanceAs (Decidable (command.name = dataName))

@[simp] theorem isData_ofNumbers
    (name : String)
    (numbers : List Int) :
    (Command.ofNumbers name numbers).IsData ↔ name.toList = dataName :=
  Iff.rfl

@[simp] theorem isData_bare (name : String) :
    (Command.bare name).IsData ↔ name.toList = dataName :=
  Iff.rfl

/-- The field data among some commands. -/
def dataOf (commands : List Command) : List Text :=
  (commands.filter fun command => command.IsData).map Command.operand

@[simp] theorem dataOf_nil :
    dataOf [] = [] :=
  rfl

theorem dataOf_cons
    (command : Command)
    (others : List Command) :
    dataOf (command :: others) =
      if command.IsData then command.operand :: dataOf others else dataOf others := by
  unfold dataOf
  rw [List.filter_cons]
  split <;> simp_all

theorem dataOf_append (left right : List Command) :
    dataOf (left ++ right) = dataOf left ++ dataOf right := by
  simp [dataOf]

/--
Read a command behind its caret.  Field data goes on behind the end of its line; behind the
line of another command only line breaks can stand.
-/
def read? (piece : Text) : Option Command :=
  let name := piece.take 2
  let operand := piece.drop 2
  if name = dataName then
    some ⟨name, operand⟩
  else if (operand.dropWhile (· ≠ '\n')).all (· = '\n') then
    some ⟨name, operand.takeWhile (· ≠ '\n')⟩
  else
    none

/-- Read the commands of a text that starts with a caret. -/
def readAll? (text : Text) : Option (List Command) :=
  match Text.splitAt '^' text with
  | [] :: pieces => pieces.mapM read?
  | _ => none

/-- A command that can be told from its neighbours. -/
structure Framed (command : Command) : Prop where
  twoLetters : command.name.length = 2
  plainName : Unmarked command.name
  plainOperand : '^' ∉ command.operand ∧ '~' ∉ command.operand
  oneLine : ¬ command.IsData → '\n' ∉ command.operand

namespace Framed

theorem of_unmarked
    {name operand : Text}
    (twoLetters : name.length = 2)
    (plainName : Unmarked name)
    (plain : Unmarked operand) :
    Framed ⟨name, operand⟩ where
  twoLetters := twoLetters
  plainName := plainName
  plainOperand := ⟨plain.not_mem (by decide), plain.not_mem (by decide)⟩
  oneLine _ := plain.not_mem (by decide)

theorem data
    {operand : Text}
    (plain : '^' ∉ operand ∧ '~' ∉ operand) :
    Framed ⟨dataName, operand⟩ where
  twoLetters := rfl
  plainName := show Unmarked dataName by decide
  plainOperand := plain
  oneLine other := absurd rfl other

theorem ofNumbers
    {name : String}
    (twoLetters : name.toList.length = 2)
    (plainName : Unmarked name.toList)
    (numbers : List Int) :
    Framed (Command.ofNumbers name numbers) := by
  refine of_unmarked twoLetters plainName (.operands ?_)
  intro part member
  obtain ⟨n, -, rfl⟩ := List.mem_map.1 member
  exact .ofInt n

variable {command : Command}

/-- A framed command is read up to the next caret. -/
theorem read?_append
    (framed : command.Framed)
    {breaks : Text}
    (onlyBreaks : ∀ c ∈ breaks, c = '\n')
    (none : command.IsData → breaks = []) :
    read? (command.name ++ command.operand ++ breaks) = some command := by
  obtain ⟨name, operand⟩ := command
  have twoLetters : name.length = 2 := framed.twoLetters
  have front : (name ++ operand ++ breaks).take 2 = name := by
    rw [List.append_assoc, ← twoLetters, List.take_left]
  have behind : (name ++ operand ++ breaks).drop 2 = operand ++ breaks := by
    rw [List.append_assoc, ← twoLetters, List.drop_left]
  rw [read?, front, behind]
  by_cases isData : name = dataName
  · rw [if_pos isData, none isData, List.append_nil]
  · have absent : '\n' ∉ operand := framed.oneLine isData
    have kept : ∀ c ∈ operand, decide (c ≠ '\n') := by
      intro c member
      exact decide_eq_true fun same => absent (same ▸ member)
    have line : breaks.takeWhile (· ≠ '\n') = [] ∧ breaks.dropWhile (· ≠ '\n') = breaks := by
      cases breaks with
      | nil => exact ⟨rfl, rfl⟩
      | cons c rest => simp [onlyBreaks c (List.mem_cons_self ..)]
    have ended : breaks.all (· = '\n') := by
      simpa using onlyBreaks
    rw [if_neg isData, List.takeWhile_append_of_pos kept, List.dropWhile_append_of_pos kept,
      line.1, line.2, if_pos ended, List.append_nil]

theorem caret_not_mem
    (framed : command.Framed) :
    '^' ∉ command.name ++ command.operand := by
  rw [List.mem_append]
  exact not_or.2 ⟨framed.plainName.not_mem (by decide), framed.plainOperand.1⟩

theorem tilde_not_mem_write
    (framed : command.Framed) :
    '~' ∉ command.write := by
  have name : '~' ∉ command.name := framed.plainName.not_mem (by decide)
  simp [write, name, framed.plainOperand.2]

end Framed

/-- A text is made of written commands; line breaks may follow all but field data. -/
inductive Spells : Text → List Command → Prop where
  | nil : Spells [] []
  | cons
      {command : Command}
      {breaks rest : Text}
      {commands : List Command}
      (framed : command.Framed)
      (onlyBreaks : ∀ c ∈ breaks, c = '\n')
      (none : command.IsData → breaks = [])
      (others : Spells rest commands) :
      Spells (command.write ++ breaks ++ rest) (command :: commands)

namespace Spells

variable {text : Text} {commands : List Command}

theorem append
    {text' : Text}
    {commands' : List Command}
    (first : Spells text commands)
    (second : Spells text' commands') :
    Spells (text ++ text') (commands ++ commands') := by
  induction first with
  | nil => exact second
  | cons framed onlyBreaks none others inductionHypothesis =>
      rw [List.append_assoc]
      exact .cons framed onlyBreaks none inductionHypothesis

theorem flatMap_write
    (framed : ∀ command ∈ commands, command.Framed) :
    Spells (commands.flatMap write) commands := by
  induction commands with
  | nil => exact .nil
  | cons command others inductionHypothesis =>
      have later := inductionHypothesis fun c member => framed c (List.mem_cons_of_mem _ member)
      have first := framed command (List.mem_cons_self ..)
      simpa using @Spells.cons command [] _ _ first (by simp) (fun _ => rfl) later

/-- A command without data with line breaks behind it. -/
theorem single
    {command : Command}
    (framed : command.Framed)
    (other : ¬ command.IsData)
    {breaks : Text}
    (onlyBreaks : ∀ c ∈ breaks, c = '\n') :
    Spells (command.write ++ breaks) [command] := by
  simpa using Spells.cons framed onlyBreaks (fun isData => absurd isData other) .nil

theorem bare
    {name : String}
    (twoLetters : name.toList.length = 2)
    (plainName : Unmarked name.toList)
    (other : name.toList ≠ dataName)
    {breaks : Text}
    (onlyBreaks : ∀ c ∈ breaks, c = '\n') :
    Spells ((Command.bare name).write ++ breaks) [Command.bare name] :=
  single (.of_unmarked twoLetters plainName (by decide)) other onlyBreaks

theorem ofNumbers
    {name : String}
    (twoLetters : name.toList.length = 2)
    (plainName : Unmarked name.toList)
    (other : name.toList ≠ dataName)
    (numbers : List Int)
    {breaks : Text}
    (onlyBreaks : ∀ c ∈ breaks, c = '\n') :
    Spells ((Command.ofNumbers name numbers).write ++ breaks)
      [Command.ofNumbers name numbers] :=
  single (.ofNumbers twoLetters plainName numbers) other onlyBreaks

/-- A text that spells commands is cut into one piece for each of them. -/
theorem splitAt_eq
    (spells : Spells text commands) :
    ∃ pieces,
      Text.splitAt '^' text = [] :: pieces ∧ pieces.mapM read? = some commands := by
  induction spells with
  | nil => exact ⟨[], rfl, rfl⟩
  | @cons command breaks rest commands framed onlyBreaks none others inductionHypothesis =>
      obtain ⟨pieces, cut, reads⟩ := inductionHypothesis
      have absent : '^' ∉ command.name ++ command.operand ++ breaks := by
        rw [List.mem_append, not_or]
        refine ⟨framed.caret_not_mem, ?_⟩
        intro member
        exact absurd (onlyBreaks '^' member) (by decide)
      refine ⟨(command.name ++ command.operand ++ breaks) :: pieces, ?_, ?_⟩
      · rw [write, List.cons_append, List.cons_append, Text.splitAt, if_pos rfl,
          Text.splitAt_append absent cut, List.append_nil]
      · rw [List.mapM_cons, framed.read?_append onlyBreaks none, reads]
        rfl

theorem readAll?_eq
    (spells : Spells text commands) :
    readAll? text = some commands := by
  obtain ⟨pieces, cut, reads⟩ := spells.splitAt_eq
  rw [readAll?, cut]
  exact reads

theorem tilde_not_mem
    (spells : Spells text commands) :
    '~' ∉ text := by
  induction spells with
  | nil => simp
  | cons framed onlyBreaks none others inductionHypothesis =>
      simp only [List.mem_append, not_or]
      refine ⟨⟨framed.tilde_not_mem_write, ?_⟩, inductionHypothesis⟩
      intro member
      exact absurd (onlyBreaks '~' member) (by decide)

end Spells
end Command

open Command

theorem Symbology.mnemonic_ne_dataName (symbology : Symbology) :
    symbology.mnemonic ≠ dataName := by
  cases symbology <;> decide

/-- The data of a field, with the mark that a QR code has in front of it. -/
def FieldBody.data : FieldBody → List Text
  | .text _ _ data => [data.text]
  | .barcode _ _ data => [data.text]
  | .qr _ _ data => ["QA,".toList ++ data.text]
  | .box .. => []
  | .circle .. => []

theorem FieldBody.dataOf_commands (body : FieldBody) :
    dataOf body.commands = body.data := by
  cases body with
  | barcode symbology layout data =>
      have other : ¬ IsData
          ⟨(symbology.command layout).take 2, (symbology.command layout).drop 2⟩ := by
        rw [symbology.take_command]
        exact symbology.mnemonic_ne_dataName
      rw [commands, dataOf_cons, if_neg other]
      rfl
  | _ => rfl

theorem Field.dataOf_commands (field : Field) :
    dataOf field.commands = field.body.data := by
  rw [commands, List.cons_append, dataOf_cons, dataOf_append, dataOf_cons,
    FieldBody.dataOf_commands]
  simp [dataName]

theorem FieldBody.framed_of_mem_commands
    (body : FieldBody) :
    ∀ command ∈ body.commands, command.Framed := by
  have letters : Unmarked ['N'] ∧ Unmarked ['2'] := by decide
  cases body with
  | text orientation height data =>
      rw [commands, List.forall_mem_cons, List.forall_mem_singleton]
      refine ⟨.of_unmarked rfl (by decide) (.operands ?_), .data data.plain⟩
      simp [Unmarked.orientation, Unmarked.ofInt]
  | barcode symbology layout data =>
      obtain ⟨parts, plain, shape⟩ := symbology.command_eq layout
      have two : symbology.mnemonic.length = 2 := by cases symbology <;> rfl
      have plainName : Unmarked symbology.mnemonic := by cases symbology <;> decide
      rw [commands, List.forall_mem_cons, List.forall_mem_singleton]
      rw [shape, ← two, List.take_left, List.drop_left]
      exact ⟨.of_unmarked two plainName (.operands plain), .data data.plain⟩
  | qr magnification level data =>
      rw [commands, List.forall_mem_cons, List.forall_mem_singleton]
      refine ⟨.of_unmarked rfl (by decide) (.operands ?_), .data ?_⟩
      · simp [letters, Unmarked.level, Unmarked.ofInt]
      · simp [data.plain]
  | box width height thickness =>
      simpa [commands] using Framed.ofNumbers (by decide) (by decide) _
  | circle diameter thickness =>
      simpa [commands] using Framed.ofNumbers (by decide) (by decide) _

theorem onlyBreak :
    ∀ c ∈ ['\n'], c = '\n' := by
  decide

/-- The line of a field spells its commands, also with a line break behind it. -/
theorem Field.spells
    (field : Field)
    {breaks : Text}
    (onlyBreaks : ∀ c ∈ breaks, c = '\n') :
    Spells (field.write ++ breaks) field.commands := by
  have front :
      Spells
        ((Command.ofNumbers "FO" [field.x, field.y] :: field.body.commands).flatMap
          Command.write)
        (Command.ofNumbers "FO" [field.x, field.y] :: field.body.commands) := by
    apply Spells.flatMap_write
    rw [List.forall_mem_cons]
    exact ⟨.ofNumbers (by decide) (by decide) _, field.body.framed_of_mem_commands⟩
  have last : Spells ((Command.bare "FS").write ++ breaks) [Command.bare "FS"] :=
    .bare (by decide) (by decide) (by decide) onlyBreaks
  simpa [Field.write, Field.commands] using front.append last

/-- The lines of the fields of a label spell their commands. -/
theorem Field.spells_join
    (field : Field)
    (others : List Field) :
    Spells (Text.join ['\n'] ((field :: others).map Field.write) ++ ['\n'])
      ((field :: others).flatMap Field.commands) := by
  induction others generalizing field with
  | nil =>
      have line := field.spells onlyBreak
      simpa [Text.join] using line
  | cons next others inductionHypothesis =>
      have line := field.spells onlyBreak
      simpa [Text.join] using line.append (inductionHypothesis next)

/-- A written program spells its commands. -/
theorem Program.spells
    (program : Program) :
    Spells program.write program.commands := by
  have start : Spells ((Command.bare "XA").write ++ ['\n']) [Command.bare "XA"] :=
    .bare (by decide) (by decide) (by decide) onlyBreak
  have wide :
      Spells ((Command.ofNumbers "PW" [program.width]).write ++ ['\n'])
        [Command.ofNumbers "PW" [program.width]] :=
    .ofNumbers (by decide) (by decide) (by decide) _ onlyBreak
  have high {breaks : Text} (onlyBreaks : ∀ c ∈ breaks, c = '\n') :
      Spells ((Command.ofNumbers "LL" [program.height]).write ++ breaks)
        [Command.ofNumbers "LL" [program.height]] :=
    .ofNumbers (by decide) (by decide) (by decide) _ onlyBreaks
  have last : Spells ((Command.bare "XZ").write ++ []) [Command.bare "XZ"] :=
    .bare (by decide) (by decide) (by decide) (by decide)
  cases fields : program.fields with
  | nil =>
      -- Without fields an empty line stands between header and footer.
      have header := (start.append wide).append (@high ['\n', '\n'] (by decide))
      simpa [Program.write, Program.commands, fields, Text.join] using header.append last
  | cons field others =>
      have header := (start.append wide).append (high onlyBreak)
      have body := header.append (field.spells_join others)
      simpa [Program.write, Program.commands, fields, Text.join] using body.append last

/-- The commands of a written program are read back. -/
theorem Program.readAll?_write
    (program : Program) :
    readAll? program.write = some program.commands :=
  program.spells.readAll?_eq

theorem Program.tilde_not_mem_write
    (program : Program) :
    '~' ∉ program.write :=
  program.spells.tilde_not_mem

end LabelPress
