import LabelPress.Expr.Eval
import LabelPress.Proofs.Expr.Parse
import LabelPress.Proofs.Outcome
import LabelPress.Proofs.Row

/-!
# Operands with an alternative

What `operand || alternative` comes to, from what its two sides come to.  Both sides are
read before the operand is evaluated, and a fault of either side that is not the text of
the error marker is a fault of the whole.  Main statements: a chain of operands without a
text comes to the nonempty text of its last alternative, and a quoted alternative stands
for its content unless that holds an opening parenthesis.
-/

namespace LabelPress
namespace Expr

open ScanState

/-- What a written expression comes to: a text, or the fault that keeps it from one. -/
def outcome
    (row : Row)
    (context : Context)
    (text : Text) : Except EvalFault Text := do
  let tree ← EvalFault.liftSyntax (parse text)
  tree.eval row context

section
variable {row : Row} {context : Context} {text value : Text}

theorem outcome_trim :
    outcome row context (Text.trim text) = outcome row context text := by
  rw [outcome, parse_trim]
  rfl

theorem outcome_eq_ok :
    outcome row context text = .ok value ↔
      ∃ tree, parse text = .ok tree ∧ tree.eval row context = .ok value := by
  rw [outcome, bind_eq_ok]
  cases parse text with
  | error fault => simp [EvalFault.liftSyntax]
  | ok tree => simp [EvalFault.liftSyntax]

theorem evalText_eq :
    evalText row context text =
      match outcome row context text with
      | .error _ => errorMarker
      | .ok value => value := by
  rw [evalText, outcome]
  cases EvalFault.liftSyntax (parse text) <;> rfl

theorem evalText_of_outcome
    (made : outcome row context text = .ok value) :
    evalText row context text = value := by
  rw [evalText_eq, made]

/-- A fault of any kind is written as the error marker. -/
theorem evalText_of_fault
    (fault : ¬ Succeeds (outcome row context text)) :
    evalText row context text = errorMarker := by
  rw [evalText_eq]
  cases made : outcome row context text with
  | error _ => rfl
  | ok value => exact absurd ⟨value, made⟩ fault

/-- Literals come to their own texts. -/
theorem evalAll_literals (literals : List Text) :
    evalAll row context (literals.map .literal) = .ok literals := by
  induction literals with
  | nil => rfl
  | cons first others inductionHypothesis =>
      rw [List.map_cons, evalAll, inductionHypothesis]
      rfl

/-- An operand with a usable text gives it, any other leaves it to the alternative. -/
theorem eval_otherwise_eq_ok
    {primary alternative : Expr}
    {written result : Text} :
    (otherwise primary alternative written).eval row context = .ok result ↔
      ∃ value, primary.eval row context = .ok value ∧
        (isUsable value ∧ result = value ∨
          isUsable value = false ∧ ∃ other, alternative.eval row context = .ok other ∧
            result = alternativeValue other written) := by
  rw [eval, bind_eq_ok]
  apply exists_congr
  intro value
  apply and_congr_right
  intro _
  cases isUsable value with
  | true => simp [pure, Except.pure, eq_comm]
  | false =>
      rw [if_neg Bool.false_ne_true, bind_eq_ok]
      simp [pure, Except.pure, eq_comm]

/-- A word comes to the text of its column, empty where the row has none. -/
theorem outcome_word
    {word : Text}
    (isWord : IsWord word) :
    outcome row context word =
      EvalFault.liftNumeric ((row.column? word).map fun text => text.getD []) := by
  rw [outcome, parse_of_word isWord]
  rfl

theorem outcome_word_of_column
    {word : Text}
    {found : Option Text}
    (isWord : IsWord word)
    (column : row.column? word = .ok found) :
    outcome row context word = .ok (found.getD []) := by
  rw [outcome_word isWord, column]
  rfl

/-- A column without a text keeps its name from having an outcome. -/
theorem not_succeeds_outcome_word
    {word : Text}
    {fault : NumericFault}
    (isWord : IsWord word)
    (column : row.column? word = .error fault) :
    ¬ Succeeds (outcome row context word) := by
  rw [outcome_word isWord, column]
  exact Succeeds.not_error _

end

theorem isUsable_iff {text : Text} :
    isUsable text ↔ text ≠ [] ∧ text ≠ errorMarker := by
  simp [isUsable]

/-- The bars between an operand and its alternative, with a blank on either side. -/
def bars : Text := " || ".toList

/-- Operands and a last alternative, written with bars between them. -/
def chain
    (operands : List Text)
    (last : Text) : Text :=
  operands.foldr (fun operand rest => operand ++ bars ++ rest) last

@[simp] theorem chain_nil (last : Text) : chain [] last = last := rfl

@[simp] theorem chain_cons
    (operand : Text)
    (operands : List Text)
    (last : Text) :
    chain (operand :: operands) last = operand ++ bars ++ chain operands last := rfl

theorem chain_append
    (front behind : List Text)
    (last : Text) :
    chain (front ++ behind) last = chain front (chain behind last) :=
  List.foldr_append

theorem append_bars
    (operand alternative : Text) :
    operand ++ bars ++ alternative =
      (operand ++ [' ']) ++ alternativeToken ++ ([' '] ++ alternative) := by
  simp [bars, alternativeToken]

/-- The bars behind an operand are the first ones at the top level. -/
def FirstBars
    (operand alternative : Text) : Prop :=
  findTopLevel? (operand ++ bars ++ alternative) alternativeToken = some (operand.length + 1)

instance
    (operand alternative : Text) :
    Decidable (FirstBars operand alternative) :=
  inferInstanceAs (Decidable (_ = _))

/-- The first bars part the text of an operand and of an alternative. -/
theorem FirstBars.parse_eq
    {operand alternative : Text}
    (first : FirstBars operand alternative) :
    parse (operand ++ bars ++ alternative) = do
      let primary ← parse operand
      let substitute ← parse alternative
      return .otherwise primary substitute (Text.trim alternative) := by
  have blank : Text.AllBlank [' '] := by decide
  have found :
      findTopLevel? ((operand ++ [' ']) ++ alternativeToken ++ ([' '] ++ alternative))
          alternativeToken =
        some (operand ++ [' ']).length := by
    rw [← append_bars, List.length_append]
    exact first
  rw [append_bars, parse_of_first_bars found, parse_eq_of_trim_eq (Text.trim_append_right blank _),
    parse_eq_of_trim_eq (Text.trim_append_left blank _), Text.trim_append_left blank]

/-- No bars stand in a word, so those behind it are the first ones. -/
theorem IsWord.firstBars
    {word : Text}
    (isWord : IsWord word)
    (alternative : Text) :
    FirstBars word alternative := by
  have free : MarkFree (word ++ [' ']) := isWord.markFree.append (.ofBlank (by decide))
  have hidden : Hides '|' start (word ++ [' ']) := by
    apply along_atDepth_of_isPlain free.isPlain
    intro c member _
    exact ne_of_isMark_eq_false (free c member) (by decide)
  rw [FirstBars, append_bars,
    findTopLevel?_append_alternative hidden free.balanced.run_start ([' '] ++ alternative),
    List.length_append]
  rfl

section
variable {row : Row} {context : Context} {operand alternative value : Text}

/--
What comes out of an operand and its alternative: both are read, the operand has a
text, and that is the result if it is usable.  Otherwise the alternative is evaluated.
-/
theorem FirstBars.outcome_eq_ok
    {result : Text}
    (first : FirstBars operand alternative) :
    outcome row context (operand ++ bars ++ alternative) = .ok result ↔
      ∃ value, outcome row context operand = .ok value ∧ Succeeds (parse alternative) ∧
        (isUsable value ∧ result = value ∨
          isUsable value = false ∧ ∃ other, outcome row context alternative = .ok other ∧
            result = alternativeValue other (Text.trim alternative)) := by
  rw [Expr.outcome_eq_ok]
  constructor
  · rintro ⟨tree, read, evaluated⟩
    rw [first.parse_eq] at read
    obtain ⟨primary, primaryRead, read⟩ := bind_eq_ok.1 read
    obtain ⟨substitute, substituteRead, read⟩ := bind_eq_ok.1 read
    cases read
    obtain ⟨value, primaryEvaluated, choice⟩ := eval_otherwise_eq_ok.1 evaluated
    refine ⟨value, Expr.outcome_eq_ok.2 ⟨primary, primaryRead, primaryEvaluated⟩,
      ⟨substitute, substituteRead⟩, choice.imp_right (And.imp_right ?_)⟩
    rintro ⟨other, otherEvaluated, same⟩
    exact ⟨other, Expr.outcome_eq_ok.2 ⟨substitute, substituteRead, otherEvaluated⟩, same⟩
  · rintro ⟨value, made, ⟨substitute, substituteRead⟩, choice⟩
    obtain ⟨primary, primaryRead, primaryEvaluated⟩ := Expr.outcome_eq_ok.1 made
    refine ⟨.otherwise primary substitute (Text.trim alternative), ?_,
      eval_otherwise_eq_ok.2
        ⟨value, primaryEvaluated, choice.imp_right (And.imp_right ?_)⟩⟩
    · rw [first.parse_eq, primaryRead, substituteRead]
      rfl
    · rintro ⟨other, otherMade, same⟩
      obtain ⟨tree, read, evaluated⟩ := Expr.outcome_eq_ok.1 otherMade
      obtain rfl : substitute = tree := Except.ok.inj (substituteRead.symm.trans read)
      exact ⟨other, evaluated, same⟩

/-- An operand with a usable text gives it, if its alternative is read at all. -/
theorem FirstBars.outcome_of_usable
    (first : FirstBars operand alternative)
    (made : outcome row context operand = .ok value)
    (usable : isUsable value)
    (read : Succeeds (parse alternative)) :
    outcome row context (operand ++ bars ++ alternative) = .ok value :=
  first.outcome_eq_ok.2 ⟨value, made, read, Or.inl ⟨usable, rfl⟩⟩

/-- An operand without a usable text leaves it to its alternative. -/
theorem FirstBars.outcome_of_unusable
    {other : Text}
    (first : FirstBars operand alternative)
    (made : outcome row context operand = .ok value)
    (unusable : isUsable value = false)
    (otherMade : outcome row context alternative = .ok other) :
    outcome row context (operand ++ bars ++ alternative) =
      .ok (alternativeValue other (Text.trim alternative)) := by
  obtain ⟨substitute, read, -⟩ := Expr.outcome_eq_ok.1 otherMade
  exact first.outcome_eq_ok.2
    ⟨value, made, ⟨substitute, read⟩, Or.inr ⟨unusable, other, otherMade, rfl⟩⟩

/-- A fault of an alternative that is needed is a fault of the whole. -/
theorem FirstBars.not_succeeds_of_unusable
    (first : FirstBars operand alternative)
    (made : outcome row context operand = .ok value)
    (unusable : isUsable value = false)
    (fault : ¬ Succeeds (outcome row context alternative)) :
    ¬ Succeeds (outcome row context (operand ++ bars ++ alternative)) := by
  rintro ⟨result, resultMade⟩
  obtain ⟨text, textMade, -, ⟨usable, -⟩ | ⟨-, other, otherMade, -⟩⟩ :=
    first.outcome_eq_ok.1 resultMade
  · obtain rfl : value = text := Except.ok.inj (made.symm.trans textMade)
    simp [unusable] at usable
  · exact fault ⟨other, otherMade⟩

/-- A fault of an operand is a fault of the whole. -/
theorem FirstBars.not_succeeds_of_operand
    (first : FirstBars operand alternative)
    (fault : ¬ Succeeds (outcome row context operand)) :
    ¬ Succeeds (outcome row context (operand ++ bars ++ alternative)) := by
  rintro ⟨result, made⟩
  obtain ⟨value, operandMade, -⟩ := first.outcome_eq_ok.1 made
  exact fault ⟨value, operandMade⟩

end

/-- A text that cannot be read has no outcome. -/
theorem not_succeeds_outcome
    {row : Row}
    {context : Context}
    {text : Text}
    (unread : ¬ Succeeds (parse text)) :
    ¬ Succeeds (outcome row context text) := by
  rintro ⟨value, made⟩
  obtain ⟨tree, read, -⟩ := outcome_eq_ok.1 made
  exact unread ⟨tree, read⟩

/-- An alternative that cannot be read keeps the whole from being read. -/
theorem FirstBars.not_succeeds_parse
    {operand alternative : Text}
    (first : FirstBars operand alternative)
    (unread : ¬ Succeeds (parse alternative)) :
    ¬ Succeeds (parse (operand ++ bars ++ alternative)) := by
  rw [first.parse_eq, Succeeds.bind_iff]
  rintro ⟨primary, -, read⟩
  rw [Succeeds.bind_iff] at read
  obtain ⟨substitute, read, -⟩ := read
  exact unread ⟨substitute, read⟩

/-! ## Chains -/

@[simp] theorem alternativeValue_of_ne_nil
    {value written : Text}
    (nonempty : value ≠ []) :
    alternativeValue value written = value :=
  if_neg fun empty => nonempty empty.1

/-- An alternative without a text stands for itself as it is written. -/
theorem alternativeValue_nil
    {written : Text}
    (nonempty : written ≠ [])
    (noCall : '(' ∉ written) :
    alternativeValue [] written = stripQuotes written :=
  if_pos ⟨rfl, nonempty, noCall⟩

/-- A name with no usable text: no cell, an empty one, or the error marker. -/
def Unusable
    (row : Row)
    (name : Text) : Prop :=
  ∃ found, row.column? name = .ok found ∧ isUsable (found.getD []) = false

section
variable {row : Row} {context : Context} {name alternative : Text}

/-- A name without a usable text leaves it to the alternative behind it. -/
theorem Unusable.outcome_eq
    {other : Text}
    (unusable : Unusable row name)
    (isWord : IsWord name)
    (made : outcome row context alternative = .ok other) :
    outcome row context (name ++ bars ++ alternative) =
      .ok (alternativeValue other (Text.trim alternative)) := by
  obtain ⟨found, column, useless⟩ := unusable
  exact (isWord.firstBars alternative).outcome_of_unusable
    (outcome_word_of_column isWord column) useless made

/-- A fault of the alternative behind it is a fault of the whole. -/
theorem Unusable.not_succeeds
    (unusable : Unusable row name)
    (isWord : IsWord name)
    (fault : ¬ Succeeds (outcome row context alternative)) :
    ¬ Succeeds (outcome row context (name ++ bars ++ alternative)) := by
  obtain ⟨found, column, useless⟩ := unusable
  exact (isWord.firstBars alternative).not_succeeds_of_unusable
    (outcome_word_of_column isWord column) useless fault

end

/-- The text behind a chain of names without usable texts is that of the chain. -/
theorem outcome_chain_of_ne_nil
    {row : Row}
    {context : Context}
    {names : List Text}
    {last value : Text}
    (words : ∀ name ∈ names, IsWord name)
    (unusable : ∀ name ∈ names, Unusable row name)
    (made : outcome row context last = .ok value)
    (nonempty : value ≠ []) :
    outcome row context (chain names last) = .ok value := by
  induction names with
  | nil => exact made
  | cons name names inductionHypothesis =>
      have useless := unusable name List.mem_cons_self
      have behind := inductionHypothesis
        (fun other member => words other (List.mem_cons_of_mem name member))
        (fun other member => unusable other (List.mem_cons_of_mem name member))
      rw [chain_cons, useless.outcome_eq (words name List.mem_cons_self) behind,
        alternativeValue_of_ne_nil nonempty]

/-- A last alternative that cannot be read keeps a chain from being read. -/
theorem not_succeeds_parse_chain
    {names : List Text}
    {last : Text}
    (words : ∀ name ∈ names, IsWord name)
    (unread : ¬ Succeeds (parse last)) :
    ¬ Succeeds (parse (chain names last)) := by
  induction names with
  | nil => exact unread
  | cons name names inductionHypothesis =>
      have behind := inductionHypothesis
        fun other member => words other (List.mem_cons_of_mem name member)
      exact ((words name List.mem_cons_self).firstBars _).not_succeeds_parse behind

/-! ## Quoted alternatives -/

/-- A text between two quotes. -/
def inQuotes
    (quote : Char)
    (content : Text) : Text :=
  quote :: content ++ [quote]

theorem inQuotes_ne_nil
    (quote : Char)
    (content : Text) :
    inQuotes quote content ≠ [] :=
  List.cons_ne_nil quote _

section
variable {quote : Char} {content : Text}

theorem trim_inQuotes
    (quoting : isQuote quote) :
    Text.trim (inQuotes quote content) = inQuotes quote content := by
  have solid := isBlank_eq_false_of_isQuote quoting
  exact Text.trim_cons_append_singleton solid solid content

theorem stripQuotes_inQuotes
    (quoting : isQuote quote) :
    stripQuotes (inQuotes quote content) = content := by
  simp [stripQuotes, inQuotes, quoting]

theorem stripQuotes_of_isQuote_eq_false
    {first : Char}
    {rest : Text}
    (plain : isQuote first = false) :
    stripQuotes (first :: rest) = first :: rest := by
  simp [stripQuotes, plain]

theorem findTopLevel?_inQuotes
    (quoting : isQuote quote)
    (free : quote ∉ content) :
    findTopLevel? (inQuotes quote content) alternativeToken = none :=
  findTopLevelFrom_eq_none (hides_quoted quoting free (ne_of_isQuote quoting (by decide)))

theorem mem_inQuotes
    {c : Char}
    (quoting : isQuote quote)
    (plain : isQuote c = false) :
    c ∈ inQuotes quote content ↔ c ∈ content := by
  have different : c ≠ quote := (ne_of_isQuote quoting plain).symm
  simp [inQuotes, different]

theorem parse_inQuotes
    (quoting : isQuote quote)
    (free : quote ∉ content)
    (noCall : '(' ∉ content) :
    parse (inQuotes quote content) = .ok (.column (inQuotes quote content) none) := by
  have absent := findTopLevel?_inQuotes quoting free
  have trimmed : Text.trim (inQuotes quote content) = inQuotes quote content :=
    trim_inQuotes quoting
  rw [parse_of_find_eq_none (by rwa [trimmed]), trimmed,
    if_neg fun member => noCall ((mem_inQuotes quoting (by decide)).1 member)]

/-- With a parenthesis they are taken for a call, which the last quote spoils. -/
theorem not_succeeds_parse_inQuotes
    (quoting : isQuote quote)
    (free : quote ∉ content)
    (called : '(' ∈ content) :
    ¬ Succeeds (parse (inQuotes quote content)) := by
  have absent := findTopLevel?_inQuotes quoting free
  have trimmed : Text.trim (inQuotes quote content) = inQuotes quote content :=
    trim_inQuotes quoting
  rw [parse_of_find_eq_none (by rwa [trimmed]), trimmed,
    if_pos ((mem_inQuotes quoting (by decide)).2 called)]
  intro read
  have ends := getLast?_of_parseCall read
  rw [trimmed, inQuotes, List.getLast?_concat, Option.some.injEq] at ends
  exact ne_of_isQuote quoting (by decide) ends

/-- A quoted text that can be read comes to the column of that very name, quotes and all. -/
theorem outcome_inQuotes_of_column
    {row : Row}
    {context : Context}
    {found : Option Text}
    (quoting : isQuote quote)
    (free : quote ∉ content)
    (noCall : '(' ∉ content)
    (column : row.column? (inQuotes quote content) = .ok found) :
    outcome row context (inQuotes quote content) = .ok (found.getD []) := by
  rw [outcome, parse_inQuotes quoting free noCall]
  simp [EvalFault.liftSyntax, bind, Except.bind, eval, column, EvalFault.liftNumeric,
    Except.map]

/-- A quoted text is the name of no column. -/
theorem outcome_inQuotes
    {row : Row}
    {context : Context}
    (quoting : isQuote quote)
    (free : quote ∉ content)
    (noCall : '(' ∉ content)
    (keys : ∀ key cell, (ColumnKey.name key, cell) ∈ row → quote ∉ key) :
    outcome row context (inQuotes quote content) = .ok [] := by
  have absent : row.column? (inQuotes quote content) = .ok none :=
    Row.column?_eq_none_of_isQuote quoting List.mem_cons_self keys
  exact outcome_inQuotes_of_column quoting free noCall absent

end

/-! ## Words and quoted texts at the end of a chain -/

/-- What begins with a word and has no parenthesis stands for itself as it is written. -/
theorem alternativeValue_nil_of_word
    {word rest : Text}
    (isWord : IsWord word)
    (noCall : '(' ∉ rest) :
    alternativeValue [] (word ++ rest) = word ++ rest := by
  obtain ⟨first, others, rfl, -, unmarked⟩ := isWord.exists_cons
  have plain := isQuote_eq_false_of_isPlain (isPlain_of_isMark_eq_false unmarked)
  have absent : '(' ∉ (first :: others) ++ rest := by
    rw [List.mem_append, not_or]
    exact ⟨isWord.markFree.not_mem (by decide), noCall⟩
  rw [alternativeValue_nil (by simp) absent, List.cons_append,
    stripQuotes_of_isQuote_eq_false plain]

/-- A word behind an unusable one comes to its column, or to itself if that is empty. -/
theorem outcome_word_behind_unusable
    {row : Row}
    {context : Context}
    {name other : Text}
    {found : Option Text}
    (isWord : IsWord name)
    (unusable : Unusable row name)
    (otherWord : IsWord other)
    (column : row.column? other = .ok found) :
    outcome row context (name ++ bars ++ other) =
      .ok (if found.getD [] = [] then other else found.getD []) := by
  rw [unusable.outcome_eq isWord (outcome_word_of_column otherWord column), otherWord.trim_eq]
  split
  · rename_i empty
    have noCall : '(' ∉ ([] : Text) := List.not_mem_nil
    have itself := alternativeValue_nil_of_word otherWord noCall
    rw [List.append_nil] at itself
    rw [empty, itself]
  · rename_i nonempty
    rw [alternativeValue_of_ne_nil nonempty]

section
variable {row : Row} {context : Context} {quote : Char} {content name : Text}

/-- A quoted text behind one name stands for its content if no column has that very name. -/
theorem outcome_name_inQuotes
    (isWord : IsWord name)
    (unusable : Unusable row name)
    (quoting : isQuote quote)
    (noCall : '(' ∉ content)
    (empty : outcome row context (inQuotes quote content) = .ok []) :
    outcome row context (name ++ bars ++ inQuotes quote content) = .ok content := by
  have noCallQuoted : '(' ∉ inQuotes quote content :=
    fun member => noCall ((mem_inQuotes quoting (by decide)).1 member)
  rw [unusable.outcome_eq isWord empty, trim_inQuotes quoting,
    alternativeValue_nil (inQuotes_ne_nil quote content) noCallQuoted,
    stripQuotes_inQuotes quoting]

theorem trim_name_inQuotes
    (isWord : IsWord name)
    (quoting : isQuote quote) :
    Text.trim (name ++ bars ++ inQuotes quote content) =
      name ++ bars ++ inQuotes quote content := by
  obtain ⟨first, others, rfl, solid, -⟩ := isWord.exists_cons
  have ends := Text.trim_cons_append_singleton solid
    (isBlank_eq_false_of_isQuote quoting) (others ++ bars ++ quote :: content)
  simpa [inQuotes] using ends

/--
Quotes without a content are taken for an alternative without a text one level up, which
then stands for itself with its name, bars and quotes.
-/
theorem outcome_names_empty_quotes
    {earlier : Text}
    (earlierWord : IsWord earlier)
    (earlierUnusable : Unusable row earlier)
    (isWord : IsWord name)
    (unusable : Unusable row name)
    (quoting : isQuote quote)
    (keys : ∀ key cell, (ColumnKey.name key, cell) ∈ row → quote ∉ key) :
    outcome row context (earlier ++ bars ++ (name ++ bars ++ inQuotes quote [])) =
      .ok (name ++ bars ++ inQuotes quote []) := by
  have inner : outcome row context (name ++ bars ++ inQuotes quote []) = .ok [] :=
    outcome_name_inQuotes isWord unusable quoting List.not_mem_nil
      (outcome_inQuotes quoting List.not_mem_nil List.not_mem_nil keys)
  have noCall : '(' ∉ bars ++ inQuotes quote [] := by
    rw [List.mem_append, not_or, mem_inQuotes quoting (by decide)]
    exact ⟨by decide, List.not_mem_nil⟩
  rw [earlierUnusable.outcome_eq earlierWord inner, trim_name_inQuotes isWord quoting,
    List.append_assoc,
    alternativeValue_nil_of_word isWord noCall]

/--
A readable quoted text behind names without usable texts stands for its content; only
quotes without a content come to more than one name as they are written behind the last.
-/
theorem outcome_chain_inQuotes
    {front : List Text}
    (words : ∀ word ∈ front ++ [name], IsWord word)
    (unusable : ∀ word ∈ front ++ [name], Unusable row word)
    (quoting : isQuote quote)
    (free : quote ∉ content)
    (noCall : '(' ∉ content)
    (keys : ∀ key cell, (ColumnKey.name key, cell) ∈ row → quote ∉ key) :
    outcome row context (chain (front ++ [name]) (inQuotes quote content)) =
      .ok (if content = [] ∧ front ≠ [] then name ++ bars ++ inQuotes quote [] else content) := by
  simp only [List.mem_append, List.mem_singleton] at words unusable
  have isWord := words name (Or.inr rfl)
  have useless := unusable name (Or.inr rfl)
  have inner : outcome row context (name ++ bars ++ inQuotes quote content) = .ok content :=
    outcome_name_inQuotes isWord useless quoting noCall
      (outcome_inQuotes quoting free noCall keys)
  rw [chain_append, chain_cons, chain_nil]
  by_cases empty : content = []
  · subst empty
    cases front using List.reverseRecOn with
    | nil => simpa using inner
    | append_singleton earliest earlier _ =>
        have earlierMember : earlier ∈ earliest ++ [earlier] := by simp
        have outer :
            outcome row context (earlier ++ bars ++ (name ++ bars ++ inQuotes quote [])) =
              .ok (name ++ bars ++ inQuotes quote []) :=
          outcome_names_empty_quotes (words earlier (Or.inl earlierMember))
            (unusable earlier (Or.inl earlierMember)) isWord useless quoting keys
        have shown : name ++ bars ++ inQuotes quote [] ≠ [] := by simp [inQuotes_ne_nil]
        rw [chain_append, chain_cons, chain_nil, if_pos (by simp)]
        exact outcome_chain_of_ne_nil
          (fun word member => words word (Or.inl (List.mem_append_left _ member)))
          (fun word member => unusable word (Or.inl (List.mem_append_left _ member)))
          outer shown
  · rw [if_neg fun both => empty both.1]
    exact outcome_chain_of_ne_nil (fun word member => words word (Or.inl member))
      (fun word member => unusable word (Or.inl member)) inner empty

end
end Expr
end LabelPress
