import LabelPress.Text.Case
import Mathlib.Data.List.Infix

/-!
# Case mapping of the beginning of a text

The lower case of a text depends on its neighbours only at a capital sigma, so an ASCII
beginning of a text comes out as on its own.
-/

namespace LabelPress
namespace Text

theorem lowerAfter_append_of_ascii
    {left : Text}
    (ascii : ∀ c ∈ left, c.toNat < 128)
    (before right : Text) :
    lowerAfter before (left ++ right) =
      left.flatMap lowerChar ++ lowerAfter (left.reverse ++ before) right := by
  induction left generalizing before with
  | nil => rfl
  | cons c left inductionHypothesis =>
      have noSigma : c.toNat ≠ 0x3a3 := by
        have bound := ascii c List.mem_cons_self
        omega
      have others := inductionHypothesis fun d member => ascii d (List.mem_cons_of_mem c member)
      rw [List.cons_append, lowerAfter, if_neg noSigma, others, List.flatMap_cons,
        List.reverse_cons, List.append_assoc, List.append_assoc]
      rfl

theorem lower_isPrefix
    {left text : Text}
    (ascii : ∀ c ∈ left, c.toNat < 128)
    (begins : left <+: text) :
    lower left <+: lower text := by
  obtain ⟨right, rfl⟩ := begins
  have alone := lowerAfter_append_of_ascii ascii [] []
  rw [List.append_nil, lowerAfter, List.append_nil] at alone
  rw [lower, lower, alone, lowerAfter_append_of_ascii ascii]
  exact List.prefix_append _ _

end Text
end LabelPress
