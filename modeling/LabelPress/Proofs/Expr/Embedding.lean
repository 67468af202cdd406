import LabelPress.Proofs.Expr.Written

/-!
# Alternatives as arguments

An operand with an alternative, read on its own and as the argument of a call.  Main
statement: both readings agree exactly if no quote stands outside the parentheses of the
text.  A quote there makes the whole argument a literal without its quotes, bars and
operand included, while the same text on its own is read on both sides of its bars.

Where both readings fail they fail alike, and for a reason that lies in the text: what is
read as a call always has an opening parenthesis.
-/

namespace LabelPress

open ScanState

namespace Argument

/-! ## Quotes at the top level -/

theorem any_quoted_consPiece
    (c : Char)
    (parts : List Piece) :
    (consPiece c parts).any Piece.quoted = parts.any Piece.quoted := by
  cases parts with
  | nil => rfl
  | cons first others => rfl

/-- A character adds no more than a first piece, so the quoted pieces behind it stay. -/
theorem any_quoted_pieces_cons
    {state : ScanState}
    {c : Char}
    {rest : Text}
    (later : (pieces (state.next c) rest).any Piece.quoted) :
    (pieces state (c :: rest)).any Piece.quoted := by
  rw [pieces]
  split
  · rw [List.any_cons, later, Bool.or_true]
  · rw [any_quoted_consPiece, later]

/-- A scan that leaves the quotes of an argument leaves a quoted piece behind. -/
theorem any_quoted_of_open
    {quote : Char}
    {depth : Int}
    {text : Text}
    (outside : depth ≤ 0)
    (closed : (run ⟨some quote, depth⟩ text).quote = none) :
    (pieces ⟨some quote, depth⟩ text).any Piece.quoted := by
  induction text with
  | nil => cases closed
  | cons c rest inductionHypothesis =>
      by_cases ends : c = quote
      · rw [pieces, ends, next_self_quote]
        simp [outside]
      · apply any_quoted_pieces_cons
        rw [run_cons] at closed
        rw [next_of_ne_quote ends] at closed ⊢
        exact inductionHypothesis closed

/-- Outside quotes or inside parentheses a scan stays so until a quote at the top level. -/
theorem outside_next
    {state : ScanState}
    {c : Char}
    (here : 0 < state.depth ∨ state.quote = none ∧ isQuote c = false)
    (outside : state.quote = none ∨ 0 < state.depth) :
    (state.next c).quote = none ∨ 0 < (state.next c).depth := by
  obtain ⟨quote, depth⟩ := state
  rcases here with above | ⟨none, plain⟩
  · cases quote with
    | none =>
        by_cases closes : c = ')'
        · exact Or.inl (by rw [closes]; rfl)
        · right
          simp only [next, closes, if_false]
          split
          · exact above
          · split
            · simp only at above ⊢
              omega
            · exact above
    | some quote =>
        right
        simp only [next]
        split
        · exact above
        · exact above
  · exact Or.inl (quote_next_of_isQuote_eq_false none plain)

/-- A quote outside parentheses makes a quoted piece, if all quotes are closed. -/
theorem any_quoted_of_not_unquoted
    {state : ScanState}
    {text : Text}
    (outside : state.quote = none ∨ 0 < state.depth)
    (closed : (state.run text).quote = none)
    (quoting : ¬ Unquoted state text) :
    (pieces state text).any Piece.quoted := by
  induction text generalizing state with
  | nil => exact absurd trivial quoting
  | cons c rest inductionHypothesis =>
      apply any_quoted_pieces_cons
      by_cases here : 0 < state.depth ∨ state.quote = none ∧ isQuote c = false
      · apply inductionHypothesis (outside_next here outside) closed
        intro unquoted
        exact quoting ⟨here, unquoted⟩
      · rw [not_or, Int.not_lt, not_and, Bool.not_eq_false] at here
        obtain ⟨top, quotes⟩ := here
        obtain ⟨quote, depth⟩ := state
        obtain rfl : quote = none := outside.resolve_right (Int.not_lt.2 top)
        have opened : next ⟨none, depth⟩ c = ⟨some c, depth⟩ :=
          next_atDepth_of_isQuote (quotes rfl) depth
        rw [run_cons, opened] at closed
        rw [opened]
        exact any_quoted_of_open top closed

/-- An argument with a quote outside parentheses stands for itself. -/
theorem quoted_ofText
    {text : Text}
    (balanced : Balanced text)
    (quoting : ¬ Unquoted start text) :
    (ofText text).quoted := by
  apply any_quoted_of_not_unquoted (Or.inl rfl) _ quoting
  rw [balanced.run_start]
  rfl

end Argument

namespace Expr

/-! ## Faults of reading -/

/-- No reading fails for the lack of a parenthesis. -/
def Opened (outcome : Except SyntaxFault Expr) : Prop :=
  outcome ≠ .error .missingOpen

theorem CallText.ofText_ne_missingOpen
    {text : Text}
    (opened : '(' ∈ text) :
    CallText.ofText text ≠ .error .missingOpen := by
  rw [CallText.ofText]
  split
  · rename_i unopened
    simpa using List.dropWhile_eq_nil_iff.1 unopened '(' opened
  · split
    · simp
    · split
      · simp
      · simp

theorem opened_parseCall
    {text : Text}
    (opened : '(' ∈ text)
    (arguments : ∀ argument : Argument,
      argument.text.length < text.length → Opened (parseArgument argument)) :
    Opened (parseCall text) := by
  have solid : Text.isBlank '(' = false := by decide
  have inside : '(' ∈ Text.trim text := by
    obtain ⟨left, right, rfl⟩ := List.append_of_mem opened
    rw [Text.trim, Text.trimLeft_append_cons solid, Text.trimRight_append_cons solid]
    simp
  intro failed
  rw [parseCall_eq, bind_eq_error] at failed
  rcases failed with failed | ⟨parts, cut, failed⟩
  · exact CallText.ofText_ne_missingOpen inside failed
  · rcases bind_eq_error.1 failed with failed | ⟨given, parted, failed⟩
    · rw [Argument.split] at failed
      split at failed
      · cases failed
      · cases failed
    · rcases bind_eq_error.1 failed with failed | ⟨nodes, -, failed⟩
      · obtain ⟨argument, member, failed⟩ := exists_of_mapM_eq_error failed
        have shorter := Argument.length_le_of_split parted member
        have bound := CallText.length_inner_lt cut
        have trimmed := Text.length_trim_le text
        exact arguments argument (by omega) failed
      · cases failed

theorem opened_parseArgument
    {argument : Argument}
    (expression : Opened (parse argument.text))
    (call : '(' ∈ argument.text → Opened (parseCall argument.text)) :
    Opened (parseArgument argument) := by
  rw [parseArgument]
  split
  · simp [Opened]
  · split
    · exact expression
    · split
      · rename_i opened
        exact call opened
      · split
        · simp [Opened]
        · simp [Opened]

/-- What is read as a call has an opening parenthesis, in an expression and all its parts. -/
theorem opened_parse (text : Text) :
    Opened (parse text) ∧ ('(' ∈ text → Opened (parseCall text)) := by
  induction length : text.length using Nat.strong_induction_on generalizing text with
  | _ bound inductionHypothesis =>
      subst length
      have argument (argument : Argument) (shorter : argument.text.length < text.length) :
          Opened (parseArgument argument) := by
        have parts := inductionHypothesis _ shorter argument.text rfl
        exact opened_parseArgument parts.1 parts.2
      refine ⟨?_, fun opened => opened_parseCall opened argument⟩
      intro failed
      cases found : findTopLevel? (Text.trim text) alternativeToken with
      | none =>
          rw [parse_of_find_eq_none found] at failed
          split at failed
          · rename_i opened
            refine opened_parseCall opened ?_ failed
            intro other shorter
            exact argument other (Nat.lt_of_lt_of_le shorter (Text.length_trim_le text))
          · cases failed
      | some place =>
          rw [parse_of_find_eq_some found, bind_eq_error] at failed
          rcases failed with failed | ⟨primary, -, failed⟩
          · exact (inductionHypothesis _ (length_take_lt_of_find found) _ rfl).1 failed
          · rcases bind_eq_error.1 failed with failed | ⟨alternative, -, failed⟩
            · exact (inductionHypothesis _ (length_drop_lt_of_find found) _ rfl).1 failed
            · cases failed

/-! ## An alternative in a call -/

section
variable {function text : Text}

/-- A text with bars at the top level is read as an alternative. -/
theorem exists_parse_of_bars
    (barred : (findTopLevel? text alternativeToken).isSome) :
    ∃ left right,
      parse text = do
        let primary ← parse left
        let alternative ← parse right
        return .otherwise primary alternative (Text.trim right) := by
  obtain ⟨left, right, rfl, first⟩ := exists_append_of_findTopLevel? barred
  exact ⟨left, right, parse_of_first_bars first⟩

/-- Bars make an argument without quotes an expression. -/
theorem parseArgument_of_bars
    (barred : (findTopLevel? text alternativeToken).isSome) :
    parseArgument ⟨Text.trim text, false⟩ = parse text := by
  obtain ⟨left, right, parted, first⟩ := exists_append_of_findTopLevel? barred
  rw [parted] at first
  have found := findTopLevel?_trim first
  rw [← parted] at found
  have nonempty : (Text.trim text).isEmpty = false := by
    rw [List.isEmpty_eq_false_iff]
    intro empty
    rw [empty] at found
    cases found
  rw [parseArgument]
  simp [nonempty, found, parse_trim]

/-- A call with one argument and no comma in it. -/
theorem parse_call_single
    (named : IsFunctionName function)
    (balanced : Balanced text)
    (unparted : Hides ',' start text)
    (kept : Argument.ofText text ≠ ⟨[], false⟩) :
    parse (function ++ parenthesized text) =
      (parseArgument (Argument.ofText text)).map fun tree => .call function [tree] := by
  have nothing : Text.AllBlank [] := by decide
  have core :
      Text.Spaced (function ++ [] ++ parenthesized text) (function ++ parenthesized text) := by
    rw [List.append_nil]
    exact .refl _
  rw [parse_call named nothing balanced core, Argument.cutAtCommas_of_hides unparted,
    List.map_singleton, Argument.dropEmptyLast_singleton kept, List.mapM_cons]
  cases parseArgument (Argument.ofText text) <;> rfl

/-- Without quotes outside parentheses an alternative is read alike in a call. -/
theorem parse_call_of_unquoted
    (named : IsFunctionName function)
    (balanced : Balanced text)
    (unparted : Hides ',' start text)
    (barred : (findTopLevel? text alternativeToken).isSome)
    (unquoted : Argument.Unquoted start text) :
    parse (function ++ parenthesized text) =
      (parse text).map fun tree => .call function [tree] := by
  have argument := Argument.ofText_of_unquoted unquoted
  have read := parseArgument_of_bars barred
  rw [parse_call_single named balanced unparted, argument, read]
  rw [argument]
  intro empty
  rw [empty, parseArgument_of_empty] at read
  obtain ⟨left, right, parsed⟩ := exists_parse_of_bars barred
  obtain ⟨primary, -, parsed⟩ := bind_eq_ok.1 (parsed.symm.trans read.symm)
  obtain ⟨alternative, -, parsed⟩ := bind_eq_ok.1 parsed
  cases parsed

/-- With a quote outside parentheses the argument is a literal. -/
theorem parse_call_of_quoted
    (named : IsFunctionName function)
    (balanced : Balanced text)
    (unparted : Hides ',' start text)
    (quoting : ¬ Argument.Unquoted start text) :
    parse (function ++ parenthesized text) =
      .ok (.call function [.literal (Argument.ofText text).text]) := by
  have quoted := Argument.quoted_ofText balanced quoting
  have kept : Argument.ofText text ≠ ⟨[], false⟩ := by
    intro empty
    rw [empty] at quoted
    cases quoted
  have shape : Argument.ofText text = ⟨(Argument.ofText text).text, true⟩ := by
    rw [← quoted]
  rw [parse_call_single named balanced unparted kept, shape, parseArgument_of_quoted]
  rfl

/-- A literal is never what an alternative is read as. -/
theorem parse_call_ne_of_quoted
    (named : IsFunctionName function)
    (balanced : Balanced text)
    (unparted : Hides ',' start text)
    (barred : (findTopLevel? text alternativeToken).isSome)
    (quoting : ¬ Argument.Unquoted start text) :
    parse (function ++ parenthesized text) ≠
      (parse text).map fun tree => .call function [tree] := by
  intro same
  rw [parse_call_of_quoted named balanced unparted quoting] at same
  obtain ⟨tree, read, call⟩ := map_eq_ok.1 same.symm
  obtain ⟨left, right, parsed⟩ := exists_parse_of_bars barred
  obtain ⟨primary, -, parsed⟩ := bind_eq_ok.1 (parsed.symm.trans read)
  obtain ⟨alternative, -, parsed⟩ := bind_eq_ok.1 parsed
  cases parsed
  cases call

/--
An operand with an alternative is read in a call as it is read on its own exactly if no
quote stands outside its parentheses.  With such a quote the argument is the literal text
without the quotes, and the call is read even where the text alone is not.  A text that
is not read on its own is so for its syntax, and not for the lack of a parenthesis.
-/
theorem parse_call_of_alternative
    (named : IsFunctionName function)
    (balanced : Balanced text)
    (unparted : Hides ',' start text)
    (barred : (findTopLevel? text alternativeToken).isSome) :
    (parse (function ++ parenthesized text) =
          ((parse text).map fun tree => .call function [tree]) ↔
        Argument.Unquoted start text) ∧
      (¬ Argument.Unquoted start text →
        parse (function ++ parenthesized text) =
          .ok (.call function [.literal (Argument.ofText text).text])) ∧
      ∀ fault, parse text = .error fault → fault ≠ .missingOpen := by
  refine ⟨⟨?_, parse_call_of_unquoted named balanced unparted barred⟩,
    parse_call_of_quoted named balanced unparted, ?_⟩
  · intro same
    by_contra quoting
    exact parse_call_ne_of_quoted named balanced unparted barred quoting same
  · rintro fault failed rfl
    exact (opened_parse text).1 failed

end

/-- Quotes and commas in the parentheses of an alternative do not matter. -/
theorem parse_call_of_alternative_nested :
    parse ("MAYUS".toList ++ parenthesized "a || CONCAT(\"),\", b)".toList) =
      (parse "a || CONCAT(\"),\", b)".toList).map fun tree => .call "MAYUS".toList [tree] := by
  have named : IsFunctionName "MAYUS".toList := ⟨by decide, by decide⟩
  exact (parse_call_of_alternative named (by decide) (by decide) (by decide)).1.2 (by decide)

/-- A quoted alternative makes the whole argument a literal. -/
theorem parse_call_of_quoted_alternative :
    let text : Text := "a || \"b\"".toList
    Balanced text ∧ Hides ',' start text ∧ (findTopLevel? text alternativeToken).isSome ∧
      parse ("MAYUS".toList ++ parenthesized text) =
        .ok (.call "MAYUS".toList [.literal "a || b".toList]) ∧
      parse ("MAYUS".toList ++ parenthesized text) ≠
        (parse text).map fun tree => .call "MAYUS".toList [tree] := by
  intro text
  have named : IsFunctionName "MAYUS".toList := ⟨by decide, by decide⟩
  have balanced : Balanced text := by decide
  have unparted : Hides ',' start text := by decide
  have barred : (findTopLevel? text alternativeToken).isSome := by decide
  have quoting : ¬ Argument.Unquoted start text := by decide
  exact ⟨balanced, unparted, barred, parse_call_of_quoted named balanced unparted quoting,
    parse_call_ne_of_quoted named balanced unparted barred quoting⟩

end Expr
end LabelPress
