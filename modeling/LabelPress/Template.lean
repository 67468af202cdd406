import LabelPress.Expr.Eval

/-!
# Templates

A template is plain text with spans: expressions in double braces, on one line.  Each
span is replaced by the text of its expression.  Where a span is followed by `||`, the
template is cut, and the first part that comes out neither empty nor faulty is used.
-/

namespace LabelPress
namespace Template

/-- The brace that, twice, opens a span. -/
def openBrace : Char := '\x7b'

/-- The brace that, twice, closes a span. -/
def closeBrace : Char := '\x7d'

/-- The opening of a span. -/
def opening : Text := [openBrace, openBrace]

/-- The closing of a span. -/
def closing : Text := [closeBrace, closeBrace]

/-- A text that holds the opening of a span. -/
def isExpression (text : Text) : Bool :=
  Text.contains opening text

/--
The body of a span and the text after it, for a text behind an opening.  The body is the
shortest one that is not empty, and it does not leave its line.
-/
def spanBody? : Text → Option (Text × Text)
  | [] => none
  | c :: rest =>
      if c = '\n' then
        none
      else if closing.isPrefixOf rest then
        some ([c], rest.drop 2)
      else
        (spanBody? rest).map fun found => (c :: found.1, found.2)

/-- What follows a span is shorter than what follows its opening. -/
theorem length_spanBody?_lt
    {text body after : Text}
    (found : spanBody? text = some (body, after)) :
    after.length < text.length := by
  induction text generalizing body with
  | nil => simp [spanBody?] at found
  | cons c rest inductionHypothesis =>
      rw [spanBody?] at found
      split at found
      · cases found
      · split at found
        · simp only [Option.some.injEq, Prod.mk.injEq] at found
          simp only [← found.2, List.length_drop, List.length_cons]
          omega
        · obtain ⟨inner, inner_found, parts⟩ := Option.map_eq_some_iff.1 found
          simp only [Prod.mk.injEq] at parts
          have found_inner : spanBody? rest = some (inner.1, after) := by
            rw [inner_found, ← parts.2]
          exact Nat.lt_succ_of_lt (inductionHypothesis found_inner)

/-- A part of a template. -/
inductive Segment where
  /-- A character that stands for itself. -/
  | plain (c : Char)
  /-- The body of a span. -/
  | span (body : Text)
deriving DecidableEq

/-- The span that a text starts with, and the text after it. -/
def leadingSpan? (text : Text) : Option (Text × Text) :=
  if opening.isPrefixOf text then
    spanBody? (text.drop 2)
  else
    none

/-- The text after a leading span is shorter than the text. -/
theorem length_leadingSpan?_lt
    {text body after : Text}
    (found : leadingSpan? text = some (body, after)) :
    after.length < text.length := by
  rw [leadingSpan?] at found
  split at found
  · have shorter := length_spanBody?_lt found
    rw [List.length_drop] at shorter
    omega
  · cases found

/-- The parts of a template from left to right. -/
def segments (text : Text) : List Segment :=
  match text with
  | [] => []
  | c :: rest =>
      match found : leadingSpan? (c :: rest) with
      | some (body, after) =>
          have _shorter := length_leadingSpan?_lt found
          .span body :: segments after
      | none => .plain c :: segments rest
termination_by text.length
decreasing_by all_goals grind

/-- Replace every span of a template by the text of its expression. -/
def substitute
    (row : Row)
    (context : Context)
    (template : Text) : Text :=
  (segments template).flatMap fun segment =>
    match segment with
    | .plain c => [c]
    | .span body => Expr.evalText row context (Text.trim body)

/-- Put a text in front of the first text of a list. -/
def prependFirst
    (text : Text) : List Text → List Text
  | [] => [text]
  | first :: others => (text ++ first) :: others

/-- The blanks before `||` at the start of a text, and the text after it. -/
def leadingBar? (text : Text) : Option (Text × Text) :=
  let blanks := text.takeWhile Text.isBlank
  let rest := text.dropWhile Text.isBlank
  if Expr.alternativeToken.isPrefixOf rest then
    some (blanks, rest.drop 2)
  else
    none

/-- What follows the bars is shorter than the text. -/
theorem length_leadingBar?_le
    {text blanks after : Text}
    (found : leadingBar? text = some (blanks, after)) :
    after.length ≤ text.length := by
  rw [leadingBar?] at found
  split at found
  · simp only [Option.some.injEq, Prod.mk.injEq] at found
    have bound := (List.dropWhile_suffix Text.isBlank (l := text)).length_le
    rw [← found.2, List.length_drop]
    omega
  · cases found

/-- The parts of a template between the bars that follow a span. -/
def alternatives (text : Text) : List Text :=
  match text with
  | [] => [[]]
  | c :: rest =>
      match found : leadingSpan? (c :: rest) with
      | some (body, after) =>
          have shorter := length_leadingSpan?_lt found
          let span := opening ++ body ++ closing
          match followed : leadingBar? after with
          | some (blanks, next) =>
              have _further := Nat.lt_of_le_of_lt (length_leadingBar?_le followed) shorter
              (span ++ blanks) :: alternatives next
          | none => prependFirst span (alternatives after)
      | none => prependFirst [c] (alternatives rest)
termination_by text.length
decreasing_by all_goals grind

/-- A text without an error marker in it that is not empty. -/
def isUsable (text : Text) : Bool :=
  !text.isEmpty && !Text.contains errorMarker text

/-- The first usable result of a list of alternatives, the last one as it comes. -/
def firstUsable
    (row : Row)
    (context : Context) : List Text → Text
  | [] => []
  | [last] => Text.trim (substitute row context last)
  | candidate :: next :: others =>
      let result := Text.trim (substitute row context candidate)
      if isUsable result then
        result
      else
        firstUsable row context (next :: others)

/-- The text of a template. -/
def evaluate
    (row : Row)
    (context : Context)
    (template : Text) : Text :=
  match alternatives template with
  | [_] => substitute row context template
  | candidates => firstUsable row context candidates

end Template
end LabelPress
