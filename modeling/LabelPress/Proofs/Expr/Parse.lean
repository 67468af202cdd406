import LabelPress.Expr.Parse
import LabelPress.Proofs.Expr.Argument
import LabelPress.Proofs.Expr.Mark
import LabelPress.Proofs.Outcome

/-!
# How expressions are read

The equations of the reader without the bookkeeping of its termination: an operand with
an alternative, a call, a column, and the kinds of arguments.  The outer blanks of an
expression never matter, and a text without an opening parenthesis can always be read.
-/

namespace LabelPress
namespace Expr

open ScanState

/-- An expression with an alternative is read on both sides of its first bars. -/
theorem parse_of_find_eq_some
    {text : Text}
    {place : Nat}
    (found : findTopLevel? (Text.trim text) alternativeToken = some place) :
    parse text = do
      let primary ← parse (Text.trim ((Text.trim text).take place))
      let alternative ← parse (Text.trim ((Text.trim text).drop (place + 2)))
      return .otherwise primary alternative
        (Text.trim ((Text.trim text).drop (place + 2))) := by
  rw [parse]
  split
  · simp_all
  · simp_all

/-- An expression without an alternative is a call or a column. -/
theorem parse_of_find_eq_none
    {text : Text}
    (absent : findTopLevel? (Text.trim text) alternativeToken = none) :
    parse text =
      if '(' ∈ Text.trim text then
        parseCall (Text.trim text)
      else
        .ok (.column (Text.trim text) none) := by
  rw [parse]
  split
  · simp_all
  · rfl

/-- A text without bars and parentheses is the name of a column. -/
theorem parse_of_noBars
    {text : Text}
    (noBars : ¬ alternativeToken <:+: text)
    (noCall : '(' ∉ text) :
    parse text = .ok (.column (Text.trim text) none) := by
  have inside := Text.trim_isInfix text
  have absent : findTopLevel? (Text.trim text) alternativeToken = none :=
    findTopLevelFrom_eq_none_of_not_isInfix .start fun found => noBars (found.trans inside)
  rw [parse_of_find_eq_none absent, if_neg fun member => noCall (inside.subset member)]

/-- A word is the name of a column. -/
theorem parse_of_word
    {word : Text}
    (isWord : IsWord word) :
    parse word = .ok (.column word none) := by
  have noBars : ¬ alternativeToken <:+: word := by
    intro found
    exact isWord.markFree.not_mem (by decide) (found.subset List.mem_cons_self)
  rw [parse_of_noBars noBars (isWord.markFree.not_mem (by decide)), isWord.trim_eq]

/-- Reading sees only the trimmed text. -/
theorem parse_eq_of_trim_eq
    {left right : Text}
    (same : Text.trim left = Text.trim right) :
    parse left = parse right := by
  cases found : findTopLevel? (Text.trim left) alternativeToken with
  | some place =>
      rw [parse_of_find_eq_some found]
      rw [same] at found ⊢
      rw [parse_of_find_eq_some found]
  | none =>
      rw [parse_of_find_eq_none found]
      rw [same] at found ⊢
      rw [parse_of_find_eq_none found]

theorem parse_trim (text : Text) :
    parse (Text.trim text) = parse text :=
  parse_eq_of_trim_eq (Text.trim_trim text)

/-- Without an opening parenthesis nothing can go wrong in reading. -/
theorem succeeds_parse_of_noCall
    {text : Text}
    (noCall : '(' ∉ text) :
    Succeeds (parse text) := by
  induction length : text.length using Nat.strong_induction_on generalizing text with
  | _ bound inductionHypothesis =>
      have inside := (Text.trim_isInfix text).subset
      cases found : findTopLevel? (Text.trim text) alternativeToken with
      | none =>
          rw [parse_of_find_eq_none found, if_neg fun member => noCall (inside member)]
          exact .ok _
      | some place =>
          have before : '(' ∉ Text.trim ((Text.trim text).take place) := fun member =>
            noCall (inside (List.mem_of_mem_take ((Text.trim_isInfix _).subset member)))
          have behind : '(' ∉ Text.trim ((Text.trim text).drop (place + 2)) := fun member =>
            noCall (inside (List.mem_of_mem_drop ((Text.trim_isInfix _).subset member)))
          obtain ⟨primary, primaryRead⟩ :=
            inductionHypothesis _ (length ▸ length_take_lt_of_find found) before rfl
          obtain ⟨alternative, alternativeRead⟩ :=
            inductionHypothesis _ (length ▸ length_drop_lt_of_find found) behind rfl
          rw [parse_of_find_eq_some found, primaryRead, alternativeRead]
          exact .pure _

/-- A call is read by cutting it at its parentheses and its arguments at their commas. -/
theorem parseCall_eq (text : Text) :
    parseCall text = do
      let parts ← CallText.ofText (Text.trim text)
      let arguments ← Argument.split parts.inner
      let nodes ← arguments.mapM parseArgument
      return .call (Text.upper (Text.trim parts.function)) nodes := by
  rw [parseCall]
  split
  · rename_i fault cut
    rw [cut]
    rfl
  · rename_i parts cut
    conv_rhs => rw [cut]
    dsimp only [bind, Except.bind]
    split
    · rename_i fault parted
      rw [parted]
    · rename_i arguments parted
      conv_rhs => rw [parted]
      dsimp only
      rw [List.mapM_subtype (g := parseArgument) (fun _ _ => rfl), List.unattach_attach]

/-- A text hides bars in front of its first top-level bars. -/
theorem findTopLevel?_append_alternative
    {left : Text}
    (hidden : Hides '|' start left)
    (closed : start.run left = start)
    (right : Text) :
    findTopLevel? (left ++ alternativeToken ++ right) alternativeToken =
      some left.length := by
  have bars : alternativeToken ++ right = '|' :: '|' :: right := rfl
  rw [findTopLevel?, List.append_assoc, alternativeToken, findTopLevelFrom_append hidden,
    closed, ← alternativeToken, bars, alternativeToken,
    findTopLevelFrom_of_isPrefixOf (by decide) (by decide) (by simp)]
  simp

/-- The blanks before a text do not count for where its first bars are. -/
theorem findTopLevel?_trimLeft
    {left right : Text}
    (first :
      findTopLevel? (left ++ alternativeToken ++ right) alternativeToken = some left.length) :
    findTopLevel? (Text.trimLeft left ++ alternativeToken ++ right) alternativeToken =
      some (Text.trimLeft left).length := by
  obtain ⟨before, blank, parted⟩ := Text.exists_append_trimLeft left
  generalize Text.trimLeft left = kept at parted ⊢
  subst parted
  have unbarred : Hides '|' start before := by
    apply along_atDepth_of_isPlain (isPlain_of_allBlank blank)
    rintro c member - rfl
    exact absurd (blank '|' member) (by decide)
  rw [findTopLevel?, List.append_assoc, List.append_assoc, alternativeToken,
    findTopLevelFrom_append unbarred, run_of_allBlank blank, ← alternativeToken,
    ← List.append_assoc] at first
  obtain ⟨place, found, same⟩ := Option.map_eq_some_iff.1 first
  rw [List.length_append] at same
  obtain rfl : place = kept.length := by omega
  exact found

/-- Bars keep the blanks next to them when the text around them is trimmed. -/
theorem trim_append_bars (left right : Text) :
    Text.trim (left ++ alternativeToken ++ right) =
      Text.trimLeft left ++ alternativeToken ++ Text.trimRight right := by
  have solid : Text.isBlank '|' = false := by decide
  simp only [alternativeToken, List.append_assoc, List.cons_append, List.nil_append]
  rw [Text.trim, Text.trimLeft_append_cons solid, Text.trimRight_append_cons solid,
    ← List.nil_append ('|' :: right), Text.trimRight_append_cons solid, List.nil_append]

/-- Trimming moves the first bars to the front by the blanks before them. -/
theorem findTopLevel?_trim
    {left right : Text}
    (first :
      findTopLevel? (left ++ alternativeToken ++ right) alternativeToken = some left.length) :
    findTopLevel? (Text.trim (left ++ alternativeToken ++ right)) alternativeToken =
      some (Text.trimLeft left).length := by
  rw [trim_append_bars]
  exact findTopLevelFrom_append_right (findTopLevel?_trimLeft first) _

/-- An operand and an alternative are read on both sides of the first bars between them. -/
theorem parse_of_first_bars
    {left right : Text}
    (first :
      findTopLevel? (left ++ alternativeToken ++ right) alternativeToken = some left.length) :
    parse (left ++ alternativeToken ++ right) = do
      let primary ← parse left
      let alternative ← parse right
      return .otherwise primary alternative (Text.trim right) := by
  have before :
      (Text.trim (left ++ alternativeToken ++ right)).take (Text.trimLeft left).length =
        Text.trimLeft left := by
    rw [trim_append_bars, List.append_assoc, List.take_left]
  have behind :
      (Text.trim (left ++ alternativeToken ++ right)).drop
          ((Text.trimLeft left).length + 2) =
        Text.trimRight right := by
    rw [trim_append_bars, List.append_assoc, ← List.drop_drop, List.drop_left]
    rfl
  rw [parse_of_find_eq_some (findTopLevel?_trim first), before, behind, Text.trim_trimLeft,
    Text.trim_trimRight, parse_trim, parse_trim]

/--
An operand and an alternative with bars between them are read as such, if no bars stand
at the top level of the operand.
-/
theorem parse_append_alternative
    {left : Text}
    (hidden : Hides '|' start left)
    (closed : start.run left = start)
    (right : Text) :
    parse (left ++ alternativeToken ++ right) = do
      let primary ← parse left
      let alternative ← parse right
      return .otherwise primary alternative (Text.trim right) :=
  parse_of_first_bars (findTopLevel?_append_alternative hidden closed right)

/-- A text with a first opening parenthesis and a last closing one is a call text. -/
theorem CallText.ofText_eq
    {function : Text}
    (unopened : '(' ∉ function)
    (inner : Text) :
    CallText.ofText (function ++ parenthesized inner) = .ok ⟨function, inner, []⟩ := by
  have passed : ∀ c ∈ function, (c != '(') = true := by
    intro c member
    exact bne_iff_ne.2 fun same => unopened (same ▸ member)
  have from_open :
      (function ++ parenthesized inner).dropWhile (· != '(') = '(' :: (inner ++ [')']) := by
    rw [List.dropWhile_append_of_pos passed]
    rfl
  have to_open :
      (function ++ parenthesized inner).takeWhile (· != '(') = function := by
    rw [List.takeWhile_append_of_pos passed]
    simp [parenthesized]
  have last_close : cutAtLastClose? (inner ++ [')']) = some (inner, []) := by
    simp [cutAtLastClose?]
  rw [CallText.ofText, from_open, to_open]
  simp [last_close]

/-- A text is put together from what is before and behind its last closing parenthesis. -/
theorem cutAtLastClose?_eq_some
    {text inner trailing : Text}
    (cut : cutAtLastClose? text = some (inner, trailing)) :
    text = inner ++ ')' :: trailing := by
  have whole := List.takeWhile_append_dropWhile (p := (· != ')')) (l := text.reverse)
  have stops := List.head?_dropWhile_not (· != ')') text.reverse
  rw [cutAtLastClose?] at cut
  split at cut
  · cases cut
  · rename_i close before remaining
    simp only [Option.some.injEq, Prod.mk.injEq] at cut
    obtain ⟨rfl, rfl⟩ := cut
    rw [remaining] at whole stops
    obtain rfl : close = ')' := by simpa using stops
    simpa using congrArg List.reverse whole.symm

/-- A text of the form of a call is put together from its parts. -/
theorem CallText.eq_of_ofText
    {text : Text}
    {parts : CallText}
    (cut : CallText.ofText text = .ok parts) :
    text = parts.function ++ '(' :: (parts.inner ++ ')' :: parts.trailing) ∧
      Text.AllBlank parts.trailing := by
  have whole := List.takeWhile_append_dropWhile (p := (· != '(')) (l := text)
  have stops := List.head?_dropWhile_not (· != '(') text
  rw [CallText.ofText] at cut
  split at cut
  · cases cut
  · rename_i opening after remaining
    rw [remaining] at whole stops
    obtain rfl : opening = '(' := by simpa using stops
    split at cut
    · cases cut
    · rename_i inner trailing found
      split at cut
      · rename_i blank
        cases cut
        rw [← cutAtLastClose?_eq_some found]
        exact ⟨whole.symm, Text.trim_eq_nil_iff.1 (List.isEmpty_iff.1 blank)⟩
      · cases cut

/-- A text that is read as a call ends with a closing parenthesis. -/
theorem getLast?_of_parseCall
    {text : Text}
    (read : Succeeds (parseCall text)) :
    (Text.trim text).getLast? = some ')' := by
  rw [parseCall_eq, Succeeds.bind_iff] at read
  obtain ⟨parts, cut, -⟩ := read
  obtain ⟨whole, blank⟩ := CallText.eq_of_ofText cut
  have solid : Text.isBlank ')' = false := by decide
  have ends :
      Text.trim text =
        Text.trimLeft (parts.function ++ '(' :: parts.inner) ++ [')'] := by
    calc
      Text.trim text = Text.trim (Text.trim text) := (Text.trim_trim text).symm
      _ = Text.trim
            ((parts.function ++ '(' :: parts.inner) ++ [')'] ++ parts.trailing) := by
          rw [whole]
          simp
      _ = Text.trimLeft (parts.function ++ '(' :: parts.inner) ++ [')'] := by
          rw [Text.trim_append_right blank, Text.trim, Text.trimLeft_append_cons solid,
            Text.trimRight_append_cons solid, Text.trimRight_nil]
  rw [ends, List.getLast?_concat]

theorem CallText.not_mem_function
    {text : Text}
    {parts : CallText}
    (cut : CallText.ofText text = .ok parts) :
    '(' ∉ parts.function := by
  rw [CallText.ofText] at cut
  split at cut
  · cases cut
  · split at cut
    · cases cut
    · split at cut
      · cases cut
        intro member
        simpa using List.mem_takeWhile_imp member
      · cases cut

/-- A text that is read as a call has readable arguments between its parentheses. -/
theorem exists_of_parseCall
    {text : Text}
    (read : Succeeds (parseCall text)) :
    ∃ function inner arguments, Text.trim text = function ++ parenthesized inner ∧
      '(' ∉ function ∧ Argument.split inner = .ok arguments ∧
        ∀ argument ∈ arguments, Succeeds (parseArgument argument) := by
  have ends := getLast?_of_parseCall read
  rw [parseCall_eq, Succeeds.bind_iff] at read
  obtain ⟨parts, cut, read⟩ := read
  rw [Succeeds.bind_iff] at read
  obtain ⟨arguments, parted, read⟩ := read
  obtain ⟨whole, blank⟩ := CallText.eq_of_ofText cut
  have nothing : parts.trailing = [] := by
    generalize parts.trailing = trailing at whole blank
    cases trailing using List.reverseRecOn with
    | nil => rfl
    | append_singleton front last _ =>
        rw [whole, ← List.cons_append, ← List.append_assoc, ← List.cons_append,
          ← List.append_assoc, List.getLast?_concat, Option.some.injEq] at ends
        exact absurd (blank last (by simp)) (by rw [ends]; decide)
  refine ⟨parts.function, parts.inner, arguments, ?_, CallText.not_mem_function cut, parted, ?_⟩
  · rw [whole, nothing]
    simp [parenthesized]
  · exact Succeeds.mapM_iff.1 (Succeeds.bind_pure_iff.1 read)

/-- A written call is read with the name in front of its parentheses. -/
theorem parseCall_append
    {function : Text}
    (unopened : '(' ∉ function)
    (inner : Text)
    (trimmed : Text.trim (function ++ parenthesized inner) = function ++ parenthesized inner) :
    parseCall (function ++ parenthesized inner) = do
      let arguments ← Argument.split inner
      let nodes ← arguments.mapM parseArgument
      return .call (Text.upper (Text.trim function)) nodes := by
  rw [parseCall_eq, trimmed, CallText.ofText_eq unopened]
  rfl

/-- A call is read if its arguments are. -/
theorem succeeds_parseCall
    {function inner : Text}
    {arguments : List Argument}
    (unopened : '(' ∉ function)
    (trimmed : Text.trim (function ++ parenthesized inner) = function ++ parenthesized inner)
    (parted : Argument.split inner = .ok arguments)
    (each : ∀ argument ∈ arguments, Succeeds (parseArgument argument)) :
    Succeeds (parseCall (function ++ parenthesized inner)) := by
  rw [parseCall_append unopened inner trimmed, parted]
  exact Succeeds.bind_pure_iff.2 (Succeeds.mapM_iff.2 each)

/-- Arguments are read from the segments between the commas. -/
theorem parseCall_append_of_closed
    {function : Text}
    (unopened : '(' ∉ function)
    {inner : Text}
    (closed : start.run inner = start)
    (trimmed : Text.trim (function ++ parenthesized inner) = function ++ parenthesized inner) :
    parseCall (function ++ parenthesized inner) = do
      let nodes ←
        (Argument.dropEmptyLast
          ((Argument.cutAtCommas start inner).map Argument.ofText)).mapM parseArgument
      return .call (Text.upper (Text.trim function)) nodes := by
  rw [parseCall_append unopened inner trimmed, Argument.split, closed]
  rfl

/-- A text that stands for a call or an alternative means the same as an argument. -/
theorem parseArgument_of_parse
    {text : Text}
    {tree : Expr}
    (read : parse text = .ok tree)
    (compound : ∀ name fallback, tree ≠ .column name fallback) :
    parseArgument ⟨Text.trim text, false⟩ = .ok tree := by
  have nonempty : (Text.trim text).isEmpty = false := by
    rw [List.isEmpty_eq_false_iff]
    intro empty
    rw [← parse_trim, empty, parse_of_find_eq_none rfl] at read
    exact compound _ _ (Except.ok.inj read).symm
  rw [parseArgument]
  simp only [nonempty, Bool.or_false, Bool.false_eq_true, if_false]
  cases found : findTopLevel? (Text.trim text) alternativeToken with
  | some place => simpa [parse_trim] using read
  | none =>
      rw [parse_of_find_eq_none found] at read
      by_cases opened : '(' ∈ Text.trim text
      · rw [if_pos opened] at read
        simpa [opened] using read
      · rw [if_neg opened] at read
        exact absurd (Except.ok.inj read).symm (compound _ _)

end Expr
end LabelPress
