import LabelPress.Proofs.Expr.Commas
import LabelPress.Proofs.Template.Alternative
import LabelPress.Proofs.Text.Search

/-!
# Quoted arguments

A call with nothing but quoted texts as its arguments.  Main statement: as long as none of
the texts holds the closing of a span, they reach the function as they are, with commas,
parentheses, bars, single braces and the other kind of quotes in them.  Otherwise the span
ends at the first closing, inside the quotes, and what stands before it cannot be read.

The scans that look for bars, for the end of the call and for commas all know quotes.  The
scan for spans comes before them and does not.
-/

namespace LabelPress

open ScanState

namespace ScanState

/-- What holds along each piece and along the separator holds along the joined pieces. -/
theorem along_join
    {holds : ScanState → Char → Prop}
    {state : ScanState}
    {separator : Text}
    {pieces : List Text}
    (between : state.run separator = state ∧ Along holds state separator)
    (each : ∀ piece ∈ pieces, state.run piece = state ∧ Along holds state piece) :
    state.run (Text.join separator pieces) = state ∧
      Along holds state (Text.join separator pieces) := by
  induction pieces with
  | nil => exact ⟨rfl, trivial⟩
  | cons first others inductionHypothesis =>
      rw [List.forall_mem_cons] at each
      obtain ⟨here, behind⟩ := each
      cases others with
      | nil => exact here
      | cons second others =>
          have later := inductionHypothesis behind
          rw [Text.join, run_append, run_append, along_append, along_append, run_append,
            here.1, between.1]
          exact ⟨later.1, ⟨here.2, between.2⟩, later.2⟩

end ScanState

namespace Expr

/-- Quoted texts with commas and blanks between them. -/
def quotedArguments
    (quote : Char)
    (texts : List Text) : Text :=
  Text.join [',', ' '] (texts.map (inQuotes quote))

/-- A call of a function with quoted texts as its arguments. -/
def quotedCall
    (quote : Char)
    (function : Text)
    (texts : List Text) : Text :=
  function ++ parenthesized (quotedArguments quote texts)

section
variable {row : Row} {context : Context} {quote : Char} {function : Text} {texts : List Text}

theorem quotedArguments_cons
    (text second : Text)
    (others : List Text) :
    quotedArguments quote (text :: second :: others) =
      inQuotes quote text ++ ',' :: ([' '] ++ quotedArguments quote (second :: others)) := by
  simp [quotedArguments, Text.join]

/-- The call parted behind its opening and in front of its closing parenthesis. -/
theorem quotedCall_eq :
    quotedCall quote function texts =
      (function ++ ['(']) ++ (quotedArguments quote texts ++ [')']) := by
  simp [quotedCall, parenthesized]

example :
    quotedCall '\x22' Builtin.concat.name ["a, (".toList, "b".toList] =
      "CONCAT(\"a, (\", \"b\")".toList := by
  decide

/-! ## Reading quoted arguments -/

theorem written_quotedArguments
    {blanks : Text}
    (quoting : isQuote quote)
    (free : ∀ text ∈ texts, quote ∉ text)
    (blank : Text.AllBlank blanks) :
    Written (.arguments (texts.map .literal)) (blanks ++ quotedArguments quote texts) := by
  induction texts generalizing blanks with
  | nil =>
      have nothing : quotedArguments quote [] = [] := rfl
      rw [nothing, List.append_nil]
      exact .none blank
  | cons text others inductionHypothesis =>
      rw [List.forall_mem_cons] at free
      have literal : Written (.argument (.literal text)) (blanks ++ inQuotes quote text) :=
        .literal (.last quoting free.1)
          ⟨blanks, [], blank, by decide, (List.append_nil _).symm⟩
      cases others with
      | nil => exact .last literal
      | cons second others =>
          have blankBehind : Text.AllBlank [' '] := by decide
          have behind := inductionHypothesis free.2 blankBehind
          rw [quotedArguments_cons, ← List.append_assoc]
          exact .more literal behind

theorem parse_quotedCall
    (named : IsFunctionName function)
    (quoting : isQuote quote)
    (free : ∀ text ∈ texts, quote ∉ text) :
    parse (quotedCall quote function texts) = .ok (.call function (texts.map .literal)) := by
  have noBlanks : Text.AllBlank [] := by decide
  exact (Written.tightCall named (written_quotedArguments quoting free noBlanks)).reads

/-- A function is given the texts that stand between the quotes. -/
theorem outcome_quotedCall
    (named : IsFunctionName function)
    (quoting : isQuote quote)
    (free : ∀ text ∈ texts, quote ∉ text) :
    outcome row context (quotedCall quote function texts) =
      callFunction function texts row context := by
  rw [outcome, parse_quotedCall named quoting free]
  change (evalAll row context (texts.map .literal) >>= fun values =>
    callFunction function values row context) = _
  rw [evalAll_literals]
  rfl

/-! ## Calls cut inside quotes -/

/-- Between the parentheses of the call a mark that is no separator stands in quotes. -/
theorem along_quotedArguments
    {mark : Char}
    (quoting : isQuote quote)
    (free : ∀ text ∈ texts, quote ∉ text)
    (other : mark ∉ [quote, ',', ' '])
    (depth : Int) :
    (atDepth depth).run (quotedArguments quote texts) = atDepth depth ∧
      Along (fun state c => depth ≤ state.depth ∧ (c = mark → state.quote ≠ none))
        (atDepth depth) (quotedArguments quote texts) := by
  simp only [List.mem_cons, List.not_mem_nil, or_false, not_or] at other
  obtain ⟨noQuote, noComma, noBlank⟩ := other
  apply along_join
  · refine ⟨rfl, ⟨Int.le_refl depth, ?_⟩, ⟨Int.le_refl depth, ?_⟩, trivial⟩
    · exact fun same => absurd same.symm noComma
    · exact fun same => absurd same.symm noBlank
  · rw [List.forall_mem_map]
    intro text member
    have inside := free text member
    refine ⟨(Balanced.quoted quoting inside).returns depth, ?_⟩
    rw [inQuotes, List.cons_append, along_cons, next_atDepth_of_isQuote quoting, along_append,
      run_quoted inside]
    refine ⟨⟨Int.le_refl depth, fun same => absurd same.symm noQuote⟩, ?_, ?_, trivial⟩
    · exact along_quoted inside fun _ _ =>
        ⟨Int.le_refl depth, fun _ => Option.some_ne_none quote⟩
    · exact ⟨Int.le_refl depth, fun _ => Option.some_ne_none quote⟩

/-- What is read as a call leaves no quote open behind its first parenthesis. -/
theorem quote_of_parseCall
    {rest : Text}
    (unopened : '(' ∉ function)
    (trimmed : Text.trim (function ++ '(' :: rest) = function ++ '(' :: rest)
    (read : Succeeds (parseCall (function ++ '(' :: rest))) :
    (start.run rest).quote = none := by
  obtain ⟨name, inner, arguments, same, nameUnopened, parted, -⟩ := exists_of_parseCall read
  rw [trimmed, parenthesized, List.cons_append] at same
  obtain ⟨more, rfl, behind⟩ := Text.exists_append_of_not_mem unopened same
  cases more with
  | nil =>
      obtain rfl : rest = inner ++ [')'] := (List.cons.inj behind).2
      rw [run_append, run_cons, run_nil]
      exact quote_next_of_isQuote_eq_false (Argument.split_eq_ok.1 parted).1 (by decide)
  | cons c more =>
      obtain rfl : '(' = c := (List.cons.inj behind).1
      exact absurd (by simp) nameUnopened

/-- A call that is not finished is trimmed behind its first parenthesis. -/
theorem IsFunctionName.trim_append_open
    (named : IsFunctionName function)
    (rest : Text) :
    Text.trim (function ++ '(' :: rest) = function ++ '(' :: Text.trimRight rest := by
  obtain ⟨first, others, rfl⟩ := List.exists_cons_of_ne_nil named.1
  have solid : Text.isBlank first = false :=
    isBlank_eq_false_of_isNameChar (named.isName.2 first List.mem_cons_self)
  have starts := Text.trimLeft_append_cons solid [] (others ++ '(' :: rest)
  rw [List.nil_append, Text.trimLeft_nil, List.nil_append] at starts
  rw [Text.trim, List.cons_append, starts, ← List.cons_append,
    Text.trimRight_append_cons (by decide)]

/-- A text that stays below the top level behind a function name shows no bars. -/
theorem IsFunctionName.findTopLevel?_append_open
    {rest : Text}
    (named : IsFunctionName function)
    (inside : Along (fun state _ => 0 < state.depth) (atDepth 1) rest) :
    findTopLevel? (function ++ '(' :: rest) alternativeToken = none := by
  have free := named.isName.markFree
  apply findTopLevelFrom_eq_none
  refine (along_append _ _ _).2 ⟨free.shows.hides (by decide), ?_⟩
  rw [free.balanced.run_start]
  refine ⟨fun _ => by decide, inside.mono ?_⟩
  intro state c above top
  simp only [isTop, Bool.and_eq_true, beq_iff_eq] at top
  omega

/-- A call cannot be read if its text ends inside quotes. -/
theorem not_succeeds_parse_of_open
    {rest : Text}
    (named : IsFunctionName function)
    (inside : Along (fun state _ => 0 < state.depth) (atDepth 1) rest)
    (opened : ((atDepth 1).run rest).quote ≠ none) :
    ¬ Succeeds (parse (function ++ '(' :: rest)) := by
  obtain ⟨after, blank, parted⟩ := Text.exists_trimRight_append rest
  have trimmed := named.trim_append_open rest
  generalize Text.trimRight rest = front at parted trimmed
  rw [parted, along_append] at inside
  have absent := named.findTopLevel?_append_open inside.1
  rw [parse_of_find_eq_none (by rwa [trimmed]), trimmed, if_pos (by simp)]
  intro read
  have unopened : '(' ∉ function := named.isName.markFree.not_mem (by decide)
  have again : Text.trim (function ++ '(' :: front) = function ++ '(' :: front := by
    rw [← trimmed, Text.trim_trim]
  have closed := quote_of_parseCall unopened again read
  apply opened
  -- The blanks behind what is read leave the scan outside quotes.
  have deep : (atDepth 1).run front = (start.run front).deeper 1 := by
    rw [Balanced.atDepth_eq_deeper, run_deeper]
  have outside : (atDepth 1).run front = atDepth ((start.run front).depth + 1) := by
    rw [deep, deeper, closed, atDepth]
  rw [parted, run_append, outside, run_atDepth_of_isPlain (isPlain_of_allBlank blank)]
  rfl

end
end Expr

namespace Template

open LabelPress.Expr

/-! ## Braces in quoted arguments -/

section
variable {quote : Char} {function : Text} {texts : List Text}

/-- The closing of a span stands in quoted arguments only if it stands in one of the texts. -/
theorem closing_isInfix_quotedArguments
    (quoting : isQuote quote) :
    closing <:+: quotedArguments quote texts ↔ ∃ text ∈ texts, closing <:+: text := by
  have unbraced : quote ≠ closeBrace := ne_of_isQuote quoting (by decide)
  constructor
  · intro found
    induction texts with
    | nil => exact absurd (List.infix_nil.1 found) (List.cons_ne_nil _ _)
    | cons text others inductionHypothesis =>
        have absent : closeBrace ∉ [quote] := by simpa using unbraced.symm
        have first (inside : closing <:+: [quote] ++ (text ++ [quote])) : closing <:+: text :=
          pair_isInfix_left absent (pair_isInfix_right absent inside)
        cases others with
        | nil => exact ⟨text, List.mem_cons_self, first found⟩
        | cons second others =>
            rw [quotedArguments_cons] at found
            rcases pair_isInfix_append_cons (by decide) found with here | behind
            · exact ⟨text, List.mem_cons_self, first here⟩
            · obtain ⟨other, member, inside⟩ :=
                inductionHypothesis (pair_isInfix_right (by decide) behind)
              exact ⟨other, List.mem_cons_of_mem text member, inside⟩
  · rintro ⟨text, member, inside⟩
    have written : text <:+: inQuotes quote text := ⟨[quote], [quote], rfl⟩
    exact (inside.trans written).trans (Text.isInfix_join (List.mem_map_of_mem member))

theorem closeBrace_not_mem_callStart
    (named : IsFunctionName function) :
    closeBrace ∉ function ++ ['('] := by
  rw [List.mem_append, not_or]
  exact ⟨named.isName.isWord.not_mem_closeBrace, by decide⟩

theorem newline_not_mem_quotedArguments
    (quoting : isQuote quote)
    (oneLine : ∀ text ∈ texts, '\n' ∉ text) :
    '\n' ∉ quotedArguments quote texts := by
  intro member
  rcases Text.mem_join member with between | ⟨piece, written, here⟩
  · exact absurd between (by decide)
  · obtain ⟨text, textMember, rfl⟩ := List.mem_map.1 written
    exact oneLine text textMember ((mem_inQuotes quoting (by decide)).1 here)

theorem newline_not_mem_quotedCall
    (named : IsFunctionName function)
    (quoting : isQuote quote)
    (oneLine : ∀ text ∈ texts, '\n' ∉ text) :
    '\n' ∉ quotedCall quote function texts := by
  have inside := newline_not_mem_quotedArguments quoting oneLine
  have before : '\n' ∉ function := newline_not_mem_of_isWord named.isName.isWord
  simp [quotedCall, parenthesized, before, inside]

/-- The call is the body of a span if none of the texts closes it. -/
theorem isBody_quotedCall
    (named : IsFunctionName function)
    (quoting : isQuote quote)
    (oneLine : ∀ text ∈ texts, '\n' ∉ text)
    (unclosed : ∀ text ∈ texts, ¬ closing <:+: text) :
    IsBody (quotedCall quote function texts) where
  nonempty := List.append_ne_nil_of_left_ne_nil named.1 _
  oneLine := newline_not_mem_quotedCall named quoting oneLine
  unclosed := by
    rw [quotedCall_eq]
    intro found
    have inside := pair_isInfix_right (closeBrace_not_mem_callStart named) found
    obtain ⟨text, member, closes⟩ :=
      (closing_isInfix_quotedArguments quoting).1 (pair_isInfix_left (by decide) inside)
    exact unclosed text member closes
  bare := by
    rw [quotedCall_eq, ← List.append_assoc, List.getLast?_concat]
    decide

/-- A closing in one of the texts cuts the call inside its quotes. -/
theorem exists_body_of_closing
    (named : IsFunctionName function)
    (quoting : isQuote quote)
    (oneLine : ∀ text ∈ texts, '\n' ∉ text)
    (free : ∀ text ∈ texts, quote ∉ text)
    (closes : ∃ text ∈ texts, closing <:+: text) :
    ∃ body rest, quotedCall quote function texts = body ++ closing ++ rest ∧ IsBody body ∧
      ¬ Succeeds (parse body) := by
  have found : closing <:+: quotedCall quote function texts := by
    have inside := (closing_isInfix_quotedArguments quoting).2 closes
    exact inside.trans ⟨function ++ ['('], [')'], by simp [quotedCall_eq]⟩
  obtain ⟨body, rest, parted, unclosed, bare⟩ := exists_first_pair found
  have same :
      (function ++ ['(']) ++ (quotedArguments quote texts ++ [')']) =
        body ++ closeBrace :: closeBrace :: rest := by
    rw [← quotedCall_eq, parted, List.append_assoc]
    rfl
  obtain ⟨front, rfl, behind⟩ :=
    Text.exists_append_of_not_mem (closeBrace_not_mem_callStart named) same
  refine ⟨function ++ ['('] ++ front, rest, parted, ⟨by simp, ?_, unclosed, bare⟩, ?_⟩
  · intro member
    apply newline_not_mem_quotedCall named quoting oneLine
    rw [parted, List.append_assoc]
    exact List.mem_append_left _ member
  · have other : closeBrace ∉ [quote, ',', ' '] := by
      have different : quote ≠ closeBrace := ne_of_isQuote quoting (by decide)
      simpa [closeBrace] using different.symm
    obtain ⟨returns, inside⟩ := along_quotedArguments quoting free other 1
    have whole :
        Along (fun state c => 1 ≤ state.depth ∧ (c = closeBrace → state.quote ≠ none))
          (atDepth 1) (quotedArguments quote texts ++ [')']) := by
      rw [along_append, returns]
      exact ⟨inside, ⟨Int.le_refl 1, fun same => absurd same (by decide)⟩, trivial⟩
    rw [behind, along_append, along_cons] at whole
    rw [List.append_assoc]
    exact not_succeeds_parse_of_open named (whole.1.mono fun _ _ holds => holds.1)
      (whole.2.1.2 rfl)

end

section
variable {quote : Char} {texts : List Text}

/--
Quoted texts are put together as they are, unless one of them holds the closing of a span.
Then the span ends there, comes to the error marker, and what is left of the call behind it
is scanned as the rest of the template.
-/
theorem evaluate_concat_of_quoted
    (row : Row)
    (context : Context)
    (quoting : isQuote quote)
    (oneLine : ∀ text ∈ texts, '\n' ∉ text)
    (free : ∀ text ∈ texts, quote ∉ text) :
    ((∀ text ∈ texts, ¬ closing <:+: text) →
        evaluate row context (span (quotedCall quote Builtin.concat.name texts)) =
          texts.flatten) ∧
      ((∃ text ∈ texts, closing <:+: text) →
        ∃ body rest, span (quotedCall quote Builtin.concat.name texts) = span body ++ rest ∧
          segments (span body ++ rest) = .span body :: segments rest ∧
          evaluate row context (span body) = errorMarker) := by
  have named : IsFunctionName Builtin.concat.name := ⟨by decide, by decide⟩
  constructor
  · intro unclosed
    apply evaluate_span_of_outcome (isBody_quotedCall named quoting oneLine unclosed)
    rw [outcome_quotedCall named quoting free, callFunction, Builtin.ofName?_name]
    rfl
  · intro closes
    obtain ⟨body, rest, parted, isBody, unread⟩ :=
      exists_body_of_closing named quoting oneLine free closes
    refine ⟨body, rest ++ closing, ?_, segments_span isBody.isFound _, ?_⟩
    · rw [span, span, parted]
      simp only [List.append_assoc]
    · exact evaluate_span_of_fault isBody (not_succeeds_outcome unread)

/-- Commas, parentheses, bars, single braces and single quotes stay in double quotes. -/
theorem evaluate_concat_of_quoted_marks :
    let context : Context := ⟨0, 1, .midnight ⟨2026, 3, 15, by decide, by decide, by decide⟩⟩
    evaluate [] context
        (span (quotedCall '\x22' Builtin.concat.name
          ["a, (".toList, " || \x7b\x7bx\x7d".toList, [], "'".toList])) =
      "a, ( || \x7b\x7bx\x7d'".toList := by
  intro context
  exact (evaluate_concat_of_quoted [] context (by decide) (by decide) (by decide)).1 (by decide)

/-- Quotes do not keep a closing from ending the span. -/
theorem evaluate_concat_of_braces :
    let context : Context := ⟨0, 1, .midnight ⟨2026, 3, 15, by decide, by decide, by decide⟩⟩
    let texts : List Text := [closing]
    (∀ text ∈ texts, '\n' ∉ text ∧ '\x22' ∉ text) ∧
      evaluate [] context (span (quotedCall '\x22' Builtin.concat.name texts)) ≠
        texts.flatten := by
  intro context texts
  refine ⟨by decide, ?_⟩
  let layout : Layout := ⟨[], [("CONCAT(\x22".toList, "\x22)\x7d\x7d".toList)]⟩
  have isolated : layout.Isolated :=
    { bodies := by decide
      unopened := by decide
      bare := by decide
      unbarred := by decide }
  have written : span (quotedCall '\x22' Builtin.concat.name texts) = layout.fill span := by
    decide
  rw [written, isolated.evaluate_fill]
  -- The text behind the span alone is longer than the texts.
  intro same
  simpa [layout, Layout.fill, texts, closing] using congrArg List.length same

end
end Template
end LabelPress
