import LabelPress.Expr.Basic

/-!
# Quotes and parentheses

One left-to-right scan knows, at every character, whether it stands inside quotes and
how deep in parentheses it is.  A token counts only at the top level: outside quotes
and at depth zero.  Main statement: a token that is found lies inside the text.
-/

namespace LabelPress

/-- The two quote characters; a quoted piece ends with the one that it began with. -/
def isQuote (c : Char) : Bool :=
  c == '\x22' || c == '\x27'

/-- What a scan remembers of the characters it has passed. -/
structure ScanState where
  /-- The quote character that is still open. -/
  quote : Option Char
  /-- Opening less closing parentheses outside quotes; it can become negative. -/
  depth : Int
deriving DecidableEq

namespace ScanState

/-- The state before the first character. -/
def start : ScanState :=
  ⟨none, 0⟩

/-- The state after one more character. -/
def next
    (state : ScanState)
    (c : Char) : ScanState :=
  match state.quote with
  | some quote => if c = quote then { state with quote := none } else state
  | none =>
      if isQuote c then
        { state with quote := some c }
      else if c = '(' then
        { state with depth := state.depth + 1 }
      else if c = ')' then
        { state with depth := state.depth - 1 }
      else
        state

/-- The state after a text. -/
def run
    (state : ScanState)
    (text : Text) : ScanState :=
  text.foldl next state

/-- The scan is outside quotes and at depth zero. -/
def isTop (state : ScanState) : Bool :=
  state.quote.isNone && state.depth == 0

end ScanState

/-- A character that the scan does not react to outside quotes. -/
def isPlain (c : Char) : Bool :=
  !isQuote c && c != '(' && c != ')'

/-- The place of the first token at the top level of a text, counted from a state. -/
def findTopLevelFrom
    (token : Text) : ScanState → Text → Option Nat
  | _, [] => none
  | state, c :: rest =>
      if state.isTop && isPlain c && token.isPrefixOf (c :: rest) then
        some 0
      else
        (findTopLevelFrom token (state.next c) rest).map (· + 1)

/-- The place of the first token at the top level of a text. -/
def findTopLevel?
    (text : Text)
    (token : Text) : Option Nat :=
  findTopLevelFrom token .start text

/-- A token that is found starts inside the text. -/
theorem findTopLevelFrom_lt
    (token : Text)
    {state : ScanState}
    {text : Text}
    {place : Nat}
    (found : findTopLevelFrom token state text = some place) :
    place < text.length := by
  induction text generalizing state place with
  | nil => simp [findTopLevelFrom] at found
  | cons c rest inductionHypothesis =>
      rw [findTopLevelFrom] at found
      split at found
      · simp only [Option.some.injEq] at found
        simp [← found]
      · obtain ⟨later, later_found, rfl⟩ := Option.map_eq_some_iff.1 found
        simpa using inductionHypothesis later_found

/-- A token that is found at the top level starts inside the text. -/
theorem findTopLevel?_lt
    {text token : Text}
    {place : Nat}
    (found : findTopLevel? text token = some place) :
    place < text.length :=
  findTopLevelFrom_lt token found

end LabelPress
