import LabelPress.Proofs.Expr.Parse

/-!
# Written expressions

`Written` relates an expression to every way of writing it: names and function names,
numbers, texts in adjacent quoted pieces, calls with their arguments between commas, and
operands with an alternative behind bars, with blanks wherever they do not matter.  Main
statement: reading undoes writing, at any depth and width and for every choice of quotes
and blanks.

The scanners that read an expression must agree on where its parts end.  The proofs rest
on two facts about written texts: a scan of one comes back to its depth, so what stands
between the parentheses of a call is hidden from every scan outside, and outside
parentheses only a few characters stand.
-/

namespace LabelPress

open ScanState

/-- What can be written: an expression, an argument of a call, or all arguments of one. -/
inductive Phrase where
  | expression (tree : Expr)
  | argument (tree : Expr)
  | arguments (trees : List Expr)

namespace Expr

/-- A name is a run of ASCII letters and underscores. -/
def IsName (name : Text) : Prop :=
  name ≠ [] ∧ ∀ c ∈ name, isNameChar c

/-- The name of a function has no small letters. -/
def IsFunctionName (name : Text) : Prop :=
  name ≠ [] ∧ ∀ c ∈ name, isFunctionChar c

/-- Columns and calls can stand in front of bars. -/
def IsOperand : Expr → Prop
  | .column .. => True
  | .call .. => True
  | _ => False

/-- Calls and operands with an alternative are the same as arguments. -/
def IsCompound : Expr → Prop
  | .call .. => True
  | .otherwise .. => True
  | _ => False

/-- A text is a way of writing a phrase. -/
inductive Written : Phrase → Text → Prop where
  /-- A column as an expression has no text of its own where the row lacks it. -/
  | column
      {name text : Text}
      (named : IsName name)
      (spaced : Text.Spaced name text) :
      Written (.expression (.column name none)) text
  | call
      {function gap inner text : Text}
      {trees : List Expr}
      (named : IsFunctionName function)
      (blank : Text.AllBlank gap)
      (arguments : Written (.arguments trees) inner)
      (spaced : Text.Spaced (function ++ gap ++ parenthesized inner) text) :
      Written (.expression (.call function trees)) text
  /-- An alternative is kept as it is written, without its outer blanks. -/
  | otherwise
      {primary alternative : Expr}
      {left right : Text}
      (operand : IsOperand primary)
      (before : Written (.expression primary) left)
      (behind : Written (.expression alternative) right) :
      Written (.expression (.otherwise primary alternative (Text.trim right)))
        (left ++ alternativeToken ++ right)
  | literal
      {value core text : Text}
      (quoted : Quoted value core)
      (spaced : Text.Spaced core text) :
      Written (.argument (.literal value)) text
  | number
      {token text : Text}
      (number : (parseNumber? token).isSome)
      (spaced : Text.Spaced token text) :
      Written (.argument (.literal token)) text
  /-- A column as an argument stands for its own name where the row lacks it. -/
  | reference
      {name text : Text}
      (named : IsName name)
      (spaced : Text.Spaced name text) :
      Written (.argument (.column name (some name))) text
  | compound
      {tree : Expr}
      {text : Text}
      (compound : IsCompound tree)
      (expression : Written (.expression tree) text) :
      Written (.argument tree) text
  | none
      {inner : Text}
      (blank : Text.AllBlank inner) :
      Written (.arguments []) inner
  | last
      {tree : Expr}
      {text : Text}
      (argument : Written (.argument tree) text) :
      Written (.arguments [tree]) text
  | more
      {tree second : Expr}
      {others : List Expr}
      {text rest : Text}
      (argument : Written (.argument tree) text)
      (behind : Written (.arguments (second :: others)) rest) :
      Written (.arguments (tree :: second :: others)) (text ++ ',' :: rest)

/-- A call without blanks. -/
theorem Written.tightCall
    {function inner : Text}
    {trees : List Expr}
    (named : IsFunctionName function)
    (arguments : Written (.arguments trees) inner) :
    Written (.expression (.call function trees)) (function ++ parenthesized inner) := by
  have noGap : Text.AllBlank [] := by decide
  have core := Written.call named noGap arguments (.refl _)
  rwa [List.append_nil] at core

/-- Arguments that can be written can be written together. -/
theorem Written.exists_arguments
    {trees : List Expr}
    (each : ∀ tree ∈ trees, ∃ text, Written (.argument tree) text) :
    ∃ inner, Written (.arguments trees) inner := by
  induction trees with
  | nil => exact ⟨[], .none (by decide)⟩
  | cons tree others inductionHypothesis =>
      rw [List.forall_mem_cons] at each
      obtain ⟨text, argument⟩ := each.1
      obtain ⟨rest, behind⟩ := inductionHypothesis each.2
      cases others with
      | nil => exact ⟨text, .last argument⟩
      | cons second others => exact ⟨_, .more argument behind⟩

/-- Every text can be written as a literal among arguments. -/
theorem Written.exists_literal (value : Text) :
    ∃ text, Written (.argument (.literal value)) text := by
  obtain ⟨core, quoted⟩ := exists_quoted value
  exact ⟨core, .literal quoted (.refl core)⟩

theorem IsFunctionName.isName
    {name : Text}
    (named : IsFunctionName name) :
    IsName name := by
  refine ⟨named.1, ?_⟩
  intro c member
  exact isNameChar_of_isFunctionChar (named.2 c member)

theorem IsName.isWord
    {name : Text}
    (named : IsName name) :
    IsWord name := by
  refine ⟨named.1, ?_⟩
  intro c member
  have letter := named.2 c member
  have unbraced : c ≠ '\x7d' := by
    rintro rfl
    exact absurd letter (by decide)
  simp [isWordChar, isBlank_eq_false_of_isNameChar letter,
    isMark_eq_false_of_isNameChar letter, unbraced]

theorem IsName.markFree
    {name : Text}
    (named : IsName name) :
    MarkFree name :=
  named.isWord.markFree

theorem IsFunctionName.markFree_append
    {name gap : Text}
    (named : IsFunctionName name)
    (blank : Text.AllBlank gap) :
    MarkFree (name ++ gap) :=
  named.isName.markFree.append (.ofBlank blank)

theorem IsName.trim_eq
    {name : Text}
    (named : IsName name) :
    Text.trim name = name :=
  named.isWord.trim_eq

theorem IsName.parseNumber?_eq_none
    {name : Text}
    (named : IsName name) :
    parseNumber? name = .none := by
  obtain ⟨nonempty, each⟩ := named
  cases name with
  | nil => exact absurd rfl nonempty
  | cons c rest =>
      have head : isNameChar c := each c List.mem_cons_self
      refine parseNumber?_cons_eq_none ⟨?_, ?_⟩ (digitValue?_of_isNameChar head) <;>
        · rintro rfl
          revert head
          decide

theorem IsFunctionName.upper_eq
    {name : Text}
    (named : IsFunctionName name) :
    Text.upper name = name := by
  have each := named.2
  clear named
  induction name with
  | nil => rfl
  | cons c rest inductionHypothesis =>
      have same := upperChar_of_isFunctionChar (each c List.mem_cons_self)
      have tail := inductionHypothesis fun d member => each d (List.mem_cons_of_mem c member)
      rw [Text.upper, List.flatMap_cons, same, ← Text.upper, tail]
      rfl

theorem trim_of_parseNumber?
    {token : Text}
    (number : (parseNumber? token).isSome) :
    Text.trim token = token := by
  apply Text.trim_eq_self
  intro c member
  exact isBlank_eq_false_of_isNumberChar (isNumberChar_of_parseNumber? number c member)

/-! ## What written texts show outside parentheses -/

theorem balanced_call
    {function gap inner : Text}
    (named : IsFunctionName function)
    (blank : Text.AllBlank gap)
    (balanced : Balanced inner) :
    Balanced (function ++ gap ++ parenthesized inner) :=
  (named.markFree_append blank).balanced.append balanced.parenthesized

/-- A scan of a written text comes back to its depth and never goes below it. -/
theorem Written.balanced
    {phrase : Phrase}
    {text : Text}
    (written : Written phrase text) :
    Balanced text := by
  induction written with
  | column named spaced => exact named.markFree.balanced.spaced spaced
  | call named blank _ spaced inductionHypothesis =>
      exact (balanced_call named blank inductionHypothesis).spaced spaced
  | otherwise _ _ _ leftBalanced rightBalanced =>
      have bars : Balanced alternativeToken := .ofPlain (by decide)
      exact (leftBalanced.append bars).append rightBalanced
  | literal quoted spaced => exact quoted.balanced.spaced spaced
  | number number spaced => exact (MarkFree.ofNumber number).balanced.spaced spaced
  | reference named spaced => exact named.markFree.balanced.spaced spaced
  | compound _ _ inductionHypothesis => exact inductionHypothesis
  | none blank => exact .ofBlank blank
  | last _ inductionHypothesis => exact inductionHypothesis
  | more _ _ textBalanced restBalanced =>
      have comma : Balanced [','] := .ofPlain (by decide)
      exact textBalanced.append (comma.append restBalanced)

/-- What an operand shows outside parentheses: opening ones are the only marks. -/
def operandChar (c : Char) : Bool :=
  !isMark c || c == '('

/-- What an expression shows outside parentheses: also bars. -/
def expressionChar (c : Char) : Bool :=
  operandChar c || c == '|'

theorem isQuote_eq_false_of_expressionChar
    {c : Char}
    (shown : expressionChar c) :
    isQuote c = false := by
  rw [← Bool.not_eq_true]
  intro quote
  simp only [isQuote, Bool.or_eq_true, beq_iff_eq] at quote
  revert shown
  rcases quote with rfl | rfl <;> decide

theorem expressionChar_of_operandChar
    (c : Char)
    (shown : operandChar c) :
    expressionChar c := by
  simp [expressionChar, shown]

theorem MarkFree.shows
    {text : Text}
    (free : MarkFree text) :
    Shows operandChar start text := by
  apply Shows.ofPlain free.isPlain
  intro c member
  simp [operandChar, free c member]

theorem shows_spaced
    {core text : Text}
    (balanced : Balanced core)
    (shows : Shows operandChar start core)
    (spaced : Text.Spaced core text) :
    Shows operandChar start text := by
  refine along_spaced ?_ shows balanced.run_start spaced
  intro c blank
  exact Or.inr ⟨rfl, by simp [operandChar, isMark_eq_false_of_isBlank blank]⟩

/-- A function name with parentheses behind it shows only the first of them. -/
theorem shows_call
    {function gap inner : Text}
    (named : IsFunctionName function)
    (blank : Text.AllBlank gap)
    (balanced : Balanced inner) :
    Shows operandChar start (function ++ gap ++ parenthesized inner) := by
  have free := named.markFree_append blank
  exact free.shows.append free.balanced.run_start (.parenthesized balanced rfl)

theorem Written.shows_operand
    {tree : Expr}
    {text : Text}
    (written : Written (.expression tree) text)
    (operand : IsOperand tree) :
    Shows operandChar start text := by
  cases written with
  | column named spaced =>
      exact shows_spaced named.markFree.balanced named.markFree.shows spaced
  | call named blank arguments spaced =>
      exact shows_spaced (balanced_call named blank arguments.balanced)
        (shows_call named blank arguments.balanced) spaced
  | otherwise => exact operand.elim

/-- What a scan sees of a phrase at the top level. -/
def Shown : Phrase → Text → Prop
  | .expression _, text => Shows expressionChar start text
  | .argument _, text => Hides ',' start text
  | .arguments _, _ => True

/-- Expressions show no quotes and no commas, and arguments hide their commas. -/
theorem Written.shown
    {phrase : Phrase}
    {text : Text}
    (written : Written phrase text) :
    Shown phrase text := by
  induction written with
  | column named spaced =>
      exact ((Written.column named spaced).shows_operand trivial).mono
        expressionChar_of_operandChar
  | call named blank arguments spaced =>
      exact ((Written.call named blank arguments spaced).shows_operand trivial).mono
        expressionChar_of_operandChar
  | otherwise operand before behind _ rightShown =>
      have bars : Shows expressionChar start alternativeToken :=
        .ofPlain (by decide) (by decide)
      have barsBalanced : Balanced alternativeToken := .ofPlain (by decide)
      have leftShown := (before.shows_operand operand).mono
        expressionChar_of_operandChar
      exact (leftShown.append before.balanced.run_start bars).append
        (before.balanced.append barsBalanced).run_start rightShown
  | literal quoted spaced =>
      refine along_spaced ?_ (quoted.hides (by decide)) quoted.balanced.run_start spaced
      intro c blank _
      exact ne_of_isMark_eq_false (isMark_eq_false_of_isBlank blank) (by decide)
  | number number spaced =>
      have free := MarkFree.ofNumber number
      exact (shows_spaced free.balanced free.shows spaced).hides rfl
  | reference named spaced =>
      exact ((Written.column named spaced).shows_operand trivial).hides rfl
  | compound _ _ inductionHypothesis => exact Shows.hides inductionHypothesis rfl
  | none | last | more => trivial

/-! ## Reading undoes writing -/

theorem MarkFree.findTopLevel?_eq_none
    {text : Text}
    (free : MarkFree text) :
    findTopLevel? text alternativeToken = .none :=
  findTopLevelFrom_eq_none (free.shows.hides rfl)

/-- A name is read as a column, with whatever blanks around it. -/
theorem parse_of_name
    {name text : Text}
    (named : IsName name)
    (spaced : Text.Spaced name text) :
    parse text = .ok (.column name .none) := by
  rw [parse_eq_of_trim_eq spaced.trim_eq, parse_of_word named.isWord]

/-- A function name with parentheses behind it is read as a call of what is in them. -/
theorem parse_call
    {function gap inner text : Text}
    (named : IsFunctionName function)
    (blank : Text.AllBlank gap)
    (balanced : Balanced inner)
    (spaced : Text.Spaced (function ++ gap ++ parenthesized inner) text) :
    parse text = do
      let nodes ←
        (Argument.dropEmptyLast
          ((Argument.cutAtCommas start inner).map Argument.ofText)).mapM parseArgument
      return .call function nodes := by
  obtain ⟨first, others, rfl⟩ := List.exists_cons_of_ne_nil named.1
  have solid : Text.isBlank first = false :=
    isBlank_eq_false_of_isNameChar (named.isName.2 first List.mem_cons_self)
  have core_trimmed :
      Text.trim (first :: others ++ gap ++ parenthesized inner) =
        first :: others ++ gap ++ parenthesized inner := by
    have solidClose : Text.isBlank ')' = false := by decide
    have ends :=
      Text.trim_cons_append_singleton solid solidClose (others ++ gap ++ '(' :: inner)
    simpa [parenthesized] using ends
  have absent :
      findTopLevel? (first :: others ++ gap ++ parenthesized inner) alternativeToken = .none :=
    findTopLevelFrom_eq_none ((shows_call named blank balanced).hides rfl)
  have trimmed := spaced.trim_eq.trans core_trimmed
  have opened : '(' ∈ first :: others ++ gap ++ parenthesized inner := by
    simp [parenthesized]
  have unopened : '(' ∉ first :: others ++ gap :=
    (named.markFree_append blank).not_mem (by decide)
  rw [parse_of_find_eq_none (by rw [trimmed]; exact absent), trimmed, if_pos opened,
    parseCall_append_of_closed unopened balanced.run_start core_trimmed,
    Text.trim_append_right blank, named.isName.trim_eq, named.upper_eq]

/-- A call of which every argument can be read. -/
theorem parse_of_call
    {function gap inner text : Text}
    {trees : List Expr}
    (named : IsFunctionName function)
    (blank : Text.AllBlank gap)
    (balanced : Balanced inner)
    (arguments :
      (Argument.dropEmptyLast
        ((Argument.cutAtCommas start inner).map Argument.ofText)).mapM parseArgument =
          .ok trees)
    (spaced : Text.Spaced (function ++ gap ++ parenthesized inner) text) :
    parse text = .ok (.call function trees) := by
  rw [parse_call named blank balanced spaced, arguments]
  rfl

/-- An argument without marks is read from its trimmed text. -/
theorem ofText_of_markFree
    {core text : Text}
    (free : MarkFree core)
    (trimmed : Text.trim core = core)
    (spaced : Text.Spaced core text) :
    Argument.ofText text = ⟨core, false⟩ := by
  have shows := shows_spaced free.balanced free.shows spaced
  have unquoted := Argument.Unquoted.ofShows (shows.mono expressionChar_of_operandChar)
    fun _ => isQuote_eq_false_of_expressionChar
  rw [Argument.ofText_of_unquoted unquoted, spaced.trim_eq, trimmed]

/-- What reading a phrase gives back. -/
def Reads : Phrase → Text → Prop
  | .expression tree, text => parse text = .ok tree
  | .argument tree, text =>
      parseArgument (Argument.ofText text) = .ok tree ∧ Argument.ofText text ≠ ⟨[], false⟩
  | .arguments trees, inner =>
      (Argument.dropEmptyLast
        ((Argument.cutAtCommas start inner).map Argument.ofText)).mapM parseArgument = .ok trees

/-- A text without marks that is no number is, as an argument, a column that stands for itself. -/
theorem parseArgument_of_markFree
    {text : Text}
    (free : MarkFree text)
    (nonempty : text ≠ [])
    (unnumbered : parseNumber? text = .none) :
    parseArgument ⟨text, false⟩ = .ok (.column text (some text)) := by
  have solid : text.isEmpty = false := List.isEmpty_eq_false_iff.2 nonempty
  have absent := free.findTopLevel?_eq_none
  have unopened : '(' ∉ text := free.not_mem (by decide)
  rw [parseArgument]
  simp [solid, absent, unopened, unnumbered]

/-- A number as an argument stands for itself. -/
theorem parseArgument_of_number
    {token : Text}
    (number : (parseNumber? token).isSome) :
    parseArgument ⟨token, false⟩ = .ok (.literal token) := by
  have free := MarkFree.ofNumber number
  have absent := free.findTopLevel?_eq_none
  have unopened : '(' ∉ token := free.not_mem (by decide)
  rw [parseArgument]
  simp [absent, unopened, number]

theorem parseArgument_of_quoted (value : Text) :
    parseArgument ⟨value, true⟩ = .ok (.literal value) := by
  rw [parseArgument]
  rfl

theorem parseArgument_of_empty : parseArgument ⟨[], false⟩ = .ok (.literal []) := by
  rw [parseArgument]
  rfl

theorem allBlank_reads
    {inner : Text}
    (blank : Text.AllBlank inner) :
    Reads (.arguments []) inner := by
  have shows := (MarkFree.ofBlank blank).shows
  have plain := Argument.unquoted_of_isPlain (isPlain_of_allBlank blank)
  have trimmed : Text.trim inner = [] := Text.trim_eq_nil_iff.2 blank
  simp only [Reads]
  rw [Argument.cutAtCommas_of_hides (shows.hides rfl), List.map_singleton,
    Argument.ofText_of_unquoted plain, trimmed]
  rfl

/-- A call or an alternative is read as an argument just as it is read alone. -/
theorem compound_reads
    {tree : Expr}
    {text : Text}
    (compound : IsCompound tree)
    (shows : Shows expressionChar start text)
    (expressionRead : parse text = .ok tree) :
    Reads (.argument tree) text := by
  have unquoted := Argument.Unquoted.ofShows shows fun _ => isQuote_eq_false_of_expressionChar
  have noColumn : ∀ name fallback, tree ≠ .column name fallback := by
    rintro name fallback rfl
    exact compound
  have read := parseArgument_of_parse expressionRead noColumn
  simp only [Reads]
  rw [Argument.ofText_of_unquoted unquoted]
  refine ⟨read, ?_⟩
  intro empty
  rw [empty, parseArgument_of_empty] at read
  rw [← Except.ok.inj read] at compound
  exact compound

/-- A text without marks is read as a column with its name to fall back on. -/
theorem markFree_reads
    {core text : Text}
    (free : MarkFree core)
    (nonempty : core ≠ [])
    (unnumbered : parseNumber? core = .none)
    (trimmed : Text.trim core = core)
    (spaced : Text.Spaced core text) :
    Reads (.argument (.column core (some core))) text := by
  simp only [Reads]
  rw [ofText_of_markFree free trimmed spaced]
  refine ⟨parseArgument_of_markFree free nonempty unnumbered, ?_⟩
  rintro ⟨⟩
  exact nonempty rfl

/-- A word with blanks around it is read as a column. -/
theorem word_reads
    {word text : Text}
    (isWord : IsWord word)
    (unnumbered : parseNumber? word = .none)
    (spaced : Text.Spaced word text) :
    Reads (.argument (.column word (some word))) text :=
  markFree_reads isWord.markFree isWord.1 unnumbered isWord.trim_eq spaced

/-- A number with blanks around it is read as a literal. -/
theorem number_reads
    {token text : Text}
    (number : (parseNumber? token).isSome)
    (spaced : Text.Spaced token text) :
    Reads (.argument (.literal token)) text := by
  simp only [Reads]
  rw [ofText_of_markFree (.ofNumber number) (trim_of_parseNumber? number) spaced]
  refine ⟨parseArgument_of_number number, ?_⟩
  rintro ⟨⟩
  simp [parseNumber?_nil] at number

theorem literal_reads
    {value core text : Text}
    (quoted : Quoted value core)
    (spaced : Text.Spaced core text) :
    Reads (.argument (.literal value)) text := by
  simp only [Reads]
  rw [Argument.ofText_of_quoted quoted spaced]
  exact ⟨parseArgument_of_quoted _, by simp⟩

theorem last_reads
    {tree : Expr}
    {text : Text}
    (hidden : Hides ',' start text)
    (argumentRead : Reads (.argument tree) text) :
    Reads (.arguments [tree]) text := by
  obtain ⟨read, kept⟩ := argumentRead
  simp only [Reads]
  rw [Argument.cutAtCommas_of_hides hidden, List.map_singleton,
    Argument.dropEmptyLast_singleton kept, List.mapM_cons, read]
  rfl

/-- A comma parts the first argument from the others. -/
theorem more_reads
    {tree second : Expr}
    {others : List Expr}
    {text rest : Text}
    (balanced : Balanced text)
    (hidden : Hides ',' start text)
    (argumentRead : Reads (.argument tree) text)
    (behindRead : Reads (.arguments (second :: others)) rest) :
    Reads (.arguments (tree :: second :: others)) (text ++ ',' :: rest) := by
  obtain ⟨read, _⟩ := argumentRead
  have closed : (start.run text).isTop := by
    rw [balanced.run_start]
    rfl
  have segments :
      (Argument.cutAtCommas start rest).map Argument.ofText ≠ [] := by
    simpa using Argument.cutAtCommas_ne_nil start rest
  simp only [Reads] at behindRead ⊢
  rw [Argument.cutAtCommas_append_comma hidden closed, List.map_cons,
    Argument.dropEmptyLast_cons _ segments, List.mapM_cons, read, behindRead]
  rfl

/-- Every phrase is read back from every way of writing it. -/
theorem Written.reads
    {phrase : Phrase}
    {text : Text}
    (written : Written phrase text) :
    Reads phrase text := by
  induction written with
  | column named spaced => exact parse_of_name named spaced
  | call named blank arguments spaced argumentsRead =>
      exact parse_of_call named blank arguments.balanced argumentsRead spaced
  | otherwise operand before behind leftRead rightRead =>
      have unbarred : operandChar '|' = false := by decide
      have hidden := (before.shows_operand operand).hides unbarred
      simp only [Reads] at leftRead rightRead ⊢
      rw [parse_append_alternative hidden before.balanced.run_start, leftRead, rightRead]
      rfl
  | literal quoted spaced => exact literal_reads quoted spaced
  | number number spaced => exact number_reads number spaced
  | reference named spaced => exact word_reads named.isWord named.parseNumber?_eq_none spaced
  | compound compound expression expressionRead =>
      exact compound_reads compound expression.shown expressionRead
  | none blank => exact allBlank_reads blank
  | last argument argumentRead => exact last_reads argument.shown argumentRead
  | more argument _ argumentRead behindRead =>
      exact more_reads argument.balanced argument.shown argumentRead behindRead

/--
Reading undoes writing: an expression is read back from every text that is a way of
writing it.
-/
theorem parse_of_written
    {tree : Expr}
    {text : Text}
    (written : Written (.expression tree) text) :
    parse text = .ok tree :=
  written.reads

/-- Quotes hide marks, and an argument keeps its alternative. -/
theorem parse_of_written_call :
    Written
        (.expression (.call "F".toList
          [.literal "(,".toList,
            .otherwise (.column "a".toList none) (.call "G".toList []) "G()".toList]))
        " F(\"(,\", a || G())".toList ∧
      parse " F(\"(,\", a || G())".toList =
        .ok (.call "F".toList
          [.literal "(,".toList,
            .otherwise (.column "a".toList none) (.call "G".toList []) "G()".toList]) := by
  have quoted : Quoted "(,".toList "\"(,\"".toList :=
    @Quoted.last '\x22' "(,".toList (by decide) (by decide)
  have literal : Written (.argument (.literal "(,".toList)) "\"(,\"".toList :=
    .literal quoted ⟨[], [], by decide, by decide, by decide⟩
  have column : Written (.expression (.column "a".toList none)) " a ".toList :=
    .column ⟨by decide, by decide⟩ ⟨" ".toList, " ".toList, by decide, by decide, by decide⟩
  have call : Written (.expression (.call "G".toList [])) " G()".toList :=
    @Written.call "G".toList [] [] _ _ ⟨by decide, by decide⟩ (by decide)
      (.none (by decide)) ⟨" ".toList, [], by decide, by decide, by decide⟩
  have both :
      Written
        (.expression
          (.otherwise (.column "a".toList none) (.call "G".toList []) "G()".toList))
        " a || G()".toList :=
    @Written.otherwise (.column "a".toList none) _ _ _ trivial column call
  have written :
      Written
        (.expression (.call "F".toList
          [.literal "(,".toList,
            .otherwise (.column "a".toList none) (.call "G".toList []) "G()".toList]))
        " F(\"(,\", a || G())".toList :=
    @Written.call "F".toList [] "\"(,\", a || G()".toList _ _ ⟨by decide, by decide⟩
      (by decide) (.more literal (.last (.compound trivial both)))
      ⟨" ".toList, [], by decide, by decide, by decide⟩
  exact ⟨written, parse_of_written written⟩

end Expr
end LabelPress
