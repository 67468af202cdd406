import LabelPress.Proofs.Text.Search
import Mathlib.Algebra.Group.Action.Defs
import Mathlib.Algebra.Order.BigOperators.Group.List
import Mathlib.Algebra.Order.Ring.Nat

/-!
# Cutting joined pieces

Pieces that were joined with a character are cut at that character again.  They come back,
with one more cut for every such character that a piece holds itself.
-/

namespace LabelPress
namespace Text

variable {separator : Char} {left right : Text} {pieces : List Text}

theorem splitAt_append_cons :
    splitAt separator (left ++ separator :: right) =
      splitAt separator left ++ splitAt separator right := by
  induction left with
  | nil => simp [splitAt]
  | cons c rest inductionHypothesis =>
      obtain ⟨first, others, cut⟩ :=
        List.exists_cons_of_ne_nil (splitAt_ne_nil separator rest)
      rw [cut] at inductionHypothesis
      by_cases same : c = separator
      · rw [List.cons_append, splitAt, if_pos same, inductionHypothesis, splitAt, if_pos same, cut]
        rfl
      · rw [List.cons_append, splitAt, if_neg same, inductionHypothesis, splitAt, if_neg same, cut]
        rfl

theorem splitAt_of_not_mem
    {text : Text}
    (absent : separator ∉ text) :
    splitAt separator text = [text] := by
  have behind : splitAt separator [] = [[]] := rfl
  simpa using splitAt_append absent behind

/-- A text is cut into one piece more than there are separators in it. -/
theorem length_splitAt
    (separator : Char)
    (text : Text) :
    (splitAt separator text).length = text.count separator + 1 := by
  induction text with
  | nil => rfl
  | cons c rest inductionHypothesis =>
      obtain ⟨first, others, cut⟩ :=
        List.exists_cons_of_ne_nil (splitAt_ne_nil separator rest)
      by_cases same : c = separator
      · rw [splitAt, if_pos same, same, List.length_cons, inductionHypothesis,
          List.count_cons_self]
      · rw [cut] at inductionHypothesis
        rw [splitAt, if_neg same, cut, List.count_cons_of_ne same]
        exact inductionHypothesis

/-- Joined pieces are cut where they were joined and at the separators in them. -/
theorem splitAt_join
    (nonempty : pieces ≠ []) :
    splitAt separator (join [separator] pieces) = pieces.flatMap (splitAt separator) := by
  induction pieces with
  | nil => exact absurd rfl nonempty
  | cons first others inductionHypothesis =>
      cases others with
      | nil => simp [join]
      | cons second others =>
          have later := inductionHypothesis (List.cons_ne_nil second others)
          rw [join, List.append_assoc, List.singleton_append, splitAt_append_cons, later]
          rfl

theorem length_splitAt_join
    (separator : Char)
    (nonempty : pieces ≠ []) :
    (splitAt separator (join [separator] pieces)).length =
      pieces.length + (pieces.map (List.count separator)).sum := by
  rw [splitAt_join nonempty, List.length_flatMap]
  simp only [length_splitAt]
  rw [List.sum_map_add, List.map_const', List.sum_replicate, smul_eq_mul, Nat.mul_one,
    Nat.add_comm]

/-- Cutting undoes joining exactly if no piece holds a separator. -/
theorem splitAt_join_eq_self_iff
    (nonempty : pieces ≠ []) :
    splitAt separator (join [separator] pieces) = pieces ↔
      ∀ piece ∈ pieces, separator ∉ piece := by
  constructor
  · intro undone piece member
    have lengths := length_splitAt_join separator nonempty
    rw [undone] at lengths
    have none : (pieces.map (List.count separator)).sum = 0 := by omega
    have count := List.sum_eq_zero_iff.1 none _ (List.mem_map_of_mem member)
    exact List.count_eq_zero.1 count
  · intro absent
    rw [splitAt_join nonempty, List.flatMap_congr fun piece member =>
      splitAt_of_not_mem (absent piece member)]
    simp

end Text
end LabelPress
