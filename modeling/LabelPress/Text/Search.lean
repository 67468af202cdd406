import LabelPress.Text.Blank

/-!
# Searching and replacing

First occurrences of a word in a text, cutting a text at one, replacing all of them
from left to right, and the order of texts by code points.
-/

namespace LabelPress
namespace Text

/-- Cut a text around the first occurrence of a word. -/
def splitOnce? (word : Text) : Text → Option (Text × Text)
  | [] => if word.isEmpty then some ([], []) else none
  | c :: rest =>
      if word.isPrefixOf (c :: rest) then
        some ([], (c :: rest).drop word.length)
      else
        (splitOnce? word rest).map fun parts => (c :: parts.1, parts.2)

/-- A word occurs in a text. -/
def contains
    (word : Text)
    (text : Text) : Bool :=
  (splitOnce? word text).isSome

/--
Replace every occurrence of a nonempty word, from left to right and without
looking again at what was put in.
-/
def replaceAll
    (word : Text)
    (replacement : Text) : Text → Text
  | [] => []
  | c :: rest =>
      if !word.isEmpty && word.isPrefixOf (c :: rest) then
        replacement ++ replaceAll word replacement (rest.drop (word.length - 1))
      else
        c :: replaceAll word replacement rest
termination_by text => text.length
decreasing_by all_goals grind

/-- Compare texts by code points, a proper beginning before its continuations. -/
def order : Text → Text → Ordering
  | [], [] => .eq
  | [], _ :: _ => .lt
  | _ :: _, [] => .gt
  | c :: rest, d :: tail => (compare c.toNat d.toNat).then (order rest tail)

/-- Join texts with a separator between neighbours. -/
def join (separator : Text) : List Text → Text
  | [] => []
  | [last] => last
  | first :: second :: others =>
      first ++ separator ++ join separator (second :: others)

/-- Cut a text at every occurrence of a character. -/
def splitAt (separator : Char) : Text → List Text
  | [] => [[]]
  | c :: rest =>
      if c = separator then
        [] :: splitAt separator rest
      else
        match splitAt separator rest with
        | [] => [[c]]
        | first :: others => (c :: first) :: others

/-- Cutting at a character always leaves at least one piece. -/
theorem splitAt_ne_nil
    (separator : Char)
    (text : Text) :
    splitAt separator text ≠ [] := by
  cases text with
  | nil => simp [splitAt]
  | cons c rest =>
      rw [splitAt]
      split
      · simp
      · split <;> simp

end Text
end LabelPress
