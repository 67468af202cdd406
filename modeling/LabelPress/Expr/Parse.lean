import LabelPress.Expr.Argument
import LabelPress.Number.Literal
import LabelPress.Text.Case

/-!
# Reading expressions

An expression is an operand with an alternative after the first top-level `||`, a call
if it has an opening parenthesis, and a column otherwise.  An argument of a call is read
the same way, except that quoted texts, empty texts and numbers stand for themselves
and a column that the row lacks stands for its own name.

Every recursive step goes to a shorter text or to a simpler reading of the same text,
so reading always ends.
-/

namespace LabelPress
namespace Expr

/-- The token between an operand and its alternative. -/
def alternativeToken : Text := ['|', '|']

/-- The parts of a text that has the form of a call. -/
structure CallText where
  /-- The text before the first opening parenthesis. -/
  function : Text
  /-- The text between that and the last closing parenthesis. -/
  inner : Text
  /-- The text after the last closing parenthesis. -/
  trailing : Text

/-- Cut a text at its last closing parenthesis. -/
def cutAtLastClose? (text : Text) : Option (Text × Text) :=
  match text.reverse.dropWhile (· != ')') with
  | [] => none
  | _ :: before => some (before.reverse, (text.reverse.takeWhile (· != ')')).reverse)

/-- Cut a trimmed text around its first opening and last closing parenthesis. -/
def CallText.ofText (text : Text) : Except SyntaxFault CallText :=
  match text.dropWhile (· != '(') with
  | [] => .error .missingOpen
  | _ :: after =>
      match cutAtLastClose? after with
      | none => .error (.missingClose text)
      | some (inner, trailing) =>
          if (Text.trim trailing).isEmpty then
            .ok ⟨text.takeWhile (· != '('), inner, trailing⟩
          else
            .error (.trailingContent text)

/-- What stands before the last closing parenthesis is shorter than the text. -/
theorem length_cutAtLastClose?_lt
    {text inner trailing : Text}
    (cut : cutAtLastClose? text = some (inner, trailing)) :
    inner.length < text.length := by
  rw [cutAtLastClose?] at cut
  have bound := (List.dropWhile_suffix (· != ')') (l := text.reverse)).length_le
  split at cut
  · cases cut
  · rename_i close before remaining
    simp only [Option.some.injEq, Prod.mk.injEq] at cut
    rw [remaining] at bound
    simp only [List.length_cons, List.length_reverse] at bound
    rw [← cut.1, List.length_reverse]
    exact bound

/-- The text between the parentheses of a call is shorter than the call. -/
theorem CallText.length_inner_lt
    {text : Text}
    {parts : CallText}
    (cut : CallText.ofText text = .ok parts) :
    parts.inner.length < text.length := by
  rw [CallText.ofText] at cut
  have bound := (List.dropWhile_suffix (· != '(') (l := text)).length_le
  split at cut
  · cases cut
  · rename_i opening after remaining
    rw [remaining, List.length_cons] at bound
    split at cut
    · cases cut
    · rename_i inner trailing found
      split at cut
      · cases cut
        exact Nat.lt_trans (length_cutAtLastClose?_lt found) bound
      · cases cut

/-- A text before a token that was found is shorter than the whole. -/
theorem length_take_lt_of_find
    {text token : Text}
    {place : Nat}
    (found : findTopLevel? (Text.trim text) token = some place) :
    (Text.trim ((Text.trim text).take place)).length < text.length := by
  have inside := findTopLevel?_lt found
  have trimmed := Text.length_trim_le text
  have shorter := Text.length_trim_le ((Text.trim text).take place)
  rw [List.length_take] at shorter
  omega

/-- A text after the start of a token that was found is shorter than the whole. -/
theorem length_drop_lt_of_find
    {text token : Text}
    {place : Nat}
    (found : findTopLevel? (Text.trim text) token = some place) :
    (Text.trim ((Text.trim text).drop (place + 2))).length < text.length := by
  have inside := findTopLevel?_lt found
  have trimmed := Text.length_trim_le text
  have shorter := Text.length_trim_le ((Text.trim text).drop (place + 2))
  rw [List.length_drop] at shorter
  omega

mutual

/-- Read the text of an expression. -/
def parse (text : Text) : Except SyntaxFault Expr :=
  let trimmed := Text.trim text
  match found : findTopLevel? (Text.trim text) alternativeToken with
  | some place => do
      let primaryText := Text.trim (trimmed.take place)
      let alternativeText := Text.trim (trimmed.drop (place + 2))
      let primary ← parse primaryText
      let alternative ← parse alternativeText
      return .otherwise primary alternative alternativeText
  | none =>
      if '(' ∈ trimmed then
        parseCall trimmed
      else
        .ok (.column trimmed none)
termination_by (text.length, 1)
decreasing_by
  · exact Prod.Lex.left _ _ (length_take_lt_of_find found)
  · exact Prod.Lex.left _ _ (length_drop_lt_of_find found)
  · rcases Nat.lt_or_eq_of_le (Text.length_trim_le text) with less | same
    · exact Prod.Lex.left _ _ less
    · rw [same]
      exact Prod.Lex.right _ (by decide)

/-- Read the text of a call. -/
def parseCall (text : Text) : Except SyntaxFault Expr :=
  match cut : CallText.ofText (Text.trim text) with
  | .error fault => .error fault
  | .ok parts =>
      have _inside := CallText.length_inner_lt cut
      match parted : Argument.split parts.inner with
      | .error fault => .error fault
      | .ok arguments => do
          let nodes ← arguments.attach.mapM fun argument =>
            have _shorter := Argument.length_le_of_split parted argument.property
            parseArgument argument.val
          return .call (Text.upper (Text.trim parts.function)) nodes
termination_by (text.length, 0)
decreasing_by
  have trimmed := Text.length_trim_le text
  exact Prod.Lex.left _ _ (by omega)

/-- Read one argument of a call. -/
def parseArgument (argument : Argument) : Except SyntaxFault Expr :=
  if argument.quoted || argument.text.isEmpty then
    .ok (.literal argument.text)
  else if (findTopLevel? argument.text alternativeToken).isSome then
    parse argument.text
  else if '(' ∈ argument.text then
    parseCall argument.text
  else if (parseNumber? argument.text).isSome then
    .ok (.literal argument.text)
  else
    .ok (.column argument.text (some argument.text))
termination_by (argument.text.length, 2)

end

end Expr
end LabelPress
