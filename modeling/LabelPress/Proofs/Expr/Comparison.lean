import LabelPress.Proofs.Calendar.Pattern
import LabelPress.Proofs.Number.Whole
import LabelPress.Proofs.Template.Choice

/-!
# The laws of comparisons

What the six comparisons of two written operands have to do with each other and with the
order of what the operands denote.  Main statements: of any two operands exactly one is
below, equal or above, and the other comparisons follow; whole numbers compare as the
doubles nearest to them do, which is as they do themselves unless two of them have the same
double; and dates in their year-month-day form compare as in the calendar.
-/

namespace LabelPress
namespace Comparison

/-- The comparison that holds just where another one does not. -/
def negation : Comparison → Comparison
  | .equal => .different
  | .different => .equal
  | .atLeast => .below
  | .atMost => .above
  | .above => .atMost
  | .below => .atLeast

/-- The comparison that says of two operands what another one says of them exchanged. -/
def converse : Comparison → Comparison
  | .equal => .equal
  | .different => .different
  | .atLeast => .atMost
  | .atMost => .atLeast
  | .above => .below
  | .below => .above

theorem holds_negation
    (comparison : Comparison)
    (order : Ordering) :
    comparison.negation.holds order = !comparison.holds order := by
  cases comparison <;> cases order <;> rfl

theorem holds_converse
    (comparison : Comparison)
    (order : Ordering) :
    comparison.converse.holds order.swap = comparison.holds order := by
  cases comparison <;> cases order <;> rfl

/-- Every order of two operands is the answer of one of three comparisons. -/
theorem existsUnique_holds (order : Ordering) :
    ∃! comparison, comparison ∈ [below, equal, above] ∧ comparison.holds order = true := by
  cases order with
  | lt => exact ⟨below, by decide, fun other => by cases other <;> decide⟩
  | eq => exact ⟨equal, by decide, fun other => by cases other <;> decide⟩
  | gt => exact ⟨above, by decide, fun other => by cases other <;> decide⟩

section
variable {α β : Type} [LinearOrder α] [LinearOrder β] {comparison : Comparison}

/-- Two pairs in the same order satisfy the same comparisons. -/
theorem relates_congr
    {order : Ordering}
    {x y : α}
    {x' y' : β}
    (compares : order.Compares x y)
    (compares' : order.Compares x' y') :
    comparison.Relates x y ↔ comparison.Relates x' y' :=
  (holds_iff compares comparison).symm.trans (holds_iff compares' comparison)

theorem relates_map
    {f : α → β}
    (grows : StrictMono f)
    (x y : α) :
    comparison.Relates (f x) (f y) ↔ comparison.Relates x y :=
  relates_congr (grows.compares.2 (cmp_compares x y)) (cmp_compares x y)

end

end Comparison

namespace Text

/-- The order of two operands: of the numbers that they are, or else of their code points. -/
def operandOrder
    (left right : Text) : Ordering :=
  match numberPlace? left, numberPlace? right with
  | some x, some y => cmp x y
  | _, _ => order left right

theorem order_swap
    (left right : Text) :
    (order left right).swap = order right left :=
  (Ordering.compares_swap.2 (compares_order left right)).inj (compares_order right left)

/-- Exchanged operands are in the opposite order, whether they are numbers or not. -/
theorem operandOrder_swap
    (left right : Text) :
    (operandOrder left right).swap = operandOrder right left := by
  unfold operandOrder
  cases numberPlace? left with
  | none => cases numberPlace? right <;> exact order_swap left right
  | some x =>
      cases numberPlace? right with
      | none => exact order_swap left right
      | some y => exact cmp_swap x y

end Text

/-- Every comparison of two texts goes by one order of them. -/
theorem Comparison.holdsOfTexts_eq_holds
    (comparison : Comparison)
    (left right : Text) :
    comparison.holdsOfTexts left right = comparison.holds (Text.operandOrder left right) := by
  rw [Bool.eq_iff_iff, holdsOfTexts_iff, Compares, Text.operandOrder]
  have byText := holds_iff (Text.compares_order left right) comparison
  cases numberPlace? left with
  | none => exact byText.symm
  | some x =>
      cases numberPlace? right with
      | none => exact byText.symm
      | some y => exact (holds_iff (cmp_compares x y) comparison).symm

namespace Condition

open LabelPress.Expr (compared)

variable {before after left right : Text}

/-- A written comparison of operands without signs is the comparison of their trimmed texts. -/
theorem evaluate_compared
    (comparison : Comparison)
    (leftSignless : Signless left)
    (rightSignless : Signless right)
    (blankBefore : Text.AllBlank before)
    (blankAfter : Text.AllBlank after) :
    evaluate (compared comparison before after left right) =
      comparison.holdsOfTexts (Text.trim left) (Text.trim right) := by
  have cutsAt := Expr.cutsAt_compared comparison leftSignless rightSignless blankBefore blankAfter
  have cut :
      parts? (compared comparison before after left right) =
        some ⟨comparison, Text.trim (left ++ before), Text.trim (after ++ right)⟩ :=
    parts?_eq_some_iff.2 ⟨_, _, cutsAt, rfl, rfl⟩
  rw [evaluate, cut, Text.trim_append_right blankBefore, Text.trim_append_left blankAfter]

/--
Of two operands without signs exactly one comparison among below, equal and above holds,
negated comparisons have negated answers, and exchanged operands converse ones.
-/
theorem evaluate_compared_coherent
    (leftSignless : Signless left)
    (rightSignless : Signless right)
    (blankBefore : Text.AllBlank before)
    (blankAfter : Text.AllBlank after) :
    (∃! comparison, comparison ∈ [Comparison.below, .equal, .above] ∧
      evaluate (compared comparison before after left right) = true) ∧
    (∀ comparison : Comparison,
      evaluate (compared comparison.negation before after left right) =
        !evaluate (compared comparison before after left right)) ∧
    ∀ comparison : Comparison,
      evaluate (compared comparison.converse before after right left) =
        evaluate (compared comparison before after left right) := by
  have answer (comparison : Comparison) :
      evaluate (compared comparison before after left right) =
        comparison.holds (Text.operandOrder (Text.trim left) (Text.trim right)) := by
    rw [evaluate_compared comparison leftSignless rightSignless blankBefore blankAfter,
      Comparison.holdsOfTexts_eq_holds]
  refine ⟨?_, fun comparison => ?_, fun comparison => ?_⟩
  · simp only [answer]
    exact Comparison.existsUnique_holds _
  · rw [answer, answer, Comparison.holds_negation]
  · rw [evaluate_compared comparison.converse rightSignless leftSignless blankBefore blankAfter,
      Comparison.holdsOfTexts_eq_holds, ← Text.operandOrder_swap, Comparison.holds_converse, answer]

theorem evaluate_compared_coherent_overflow :
    ∃! comparison, comparison ∈ [Comparison.below, .equal, .above] ∧
      evaluate (compared comparison [' '] [' '] "1e999".toList "2e999".toList) = true :=
  (evaluate_compared_coherent (by decide) (by decide) (by decide) (by decide)).1

/-! ## Whole numbers -/

/-- Whole numbers compare as themselves if only equal ones are rounded to one place. -/
theorem relates_nearestPlace
    {m n : Int}
    (apart : Double.nearestPlace m = Double.nearestPlace n → m = n)
    (comparison : Comparison) :
    comparison.Relates (Double.nearestPlace m) (Double.nearestPlace n) ↔
      comparison.Relates m n := by
  have grows {x y : Int} (lt : x < y) : Double.nearestPlace x ≤ Double.nearestPlace y :=
    Double.nearestPlace_mono (Int.cast_le.2 lt.le)
  rcases lt_trichotomy m n with below | rfl | above
  · have places : Ordering.Compares .lt (Double.nearestPlace m) (Double.nearestPlace n) :=
      (grows below).lt_of_ne fun same => below.ne (apart same)
    exact Comparison.relates_congr places below
  · exact Comparison.relates_congr (cmp_compares _ _) (by rw [cmp_self_eq_eq]; rfl)
  · have places : Ordering.Compares .gt (Double.nearestPlace m) (Double.nearestPlace n) :=
      (grows above).lt_of_ne fun same => above.ne' (apart same.symm)
    exact Comparison.relates_congr places above

/--
Whole numbers in decimal compare as the doubles nearest to them.  All six answers are those
of the numbers themselves exactly if these are equal or have different doubles, which is so
as soon as one of them has no more than 53 bits.
-/
theorem evaluate_compared_of_writes
    {m n : Int}
    (leftWrites : Numeral.Writes m left)
    (rightWrites : Numeral.Writes n right)
    (blankBefore : Text.AllBlank before)
    (blankAfter : Text.AllBlank after) :
    (∀ comparison : Comparison,
      evaluate (compared comparison before after left right) = true ↔
        comparison.Relates (Double.nearestPlace m) (Double.nearestPlace n)) ∧
    ((∀ comparison : Comparison,
      evaluate (compared comparison before after left right) = true ↔ comparison.Relates m n) ↔
        (Double.nearestPlace m = Double.nearestPlace n → m = n)) ∧
    (m.natAbs < 2 ^ 53 ∨ n.natAbs < 2 ^ 53 →
      ∀ comparison : Comparison,
        evaluate (compared comparison before after left right) = true ↔
          comparison.Relates m n) := by
  have leftNumber := leftWrites.isSome_parseNumber?
  have rightNumber := rightWrites.isSome_parseNumber?
  have byPlaces (comparison : Comparison) :
      evaluate (compared comparison before after left right) = true ↔
        comparison.Relates (Double.nearestPlace m) (Double.nearestPlace n) := by
    rw [evaluate_compared comparison (.ofNumber leftNumber) (.ofNumber rightNumber) blankBefore
        blankAfter, Expr.trim_of_parseNumber? leftNumber, Expr.trim_of_parseNumber? rightNumber,
      Comparison.holdsOfTexts_iff, Comparison.Compares, leftWrites.numberPlace?_eq,
      rightWrites.numberPlace?_eq]
  refine ⟨byPlaces, ⟨fun agree same => ?_, fun apart comparison => ?_⟩, fun short comparison => ?_⟩
  · exact (agree .equal).1 ((byPlaces .equal).2 same)
  · rw [byPlaces, relates_nearestPlace apart]
  · rw [byPlaces, relates_nearestPlace (Double.eq_of_nearestPlace_eq short)]

theorem evaluate_compared_of_writes_short :
    evaluate (compared .below [' '] [] (Numeral.ofInt (-7)) (Numeral.ofInt 12345678901234567)) =
      true := by
  have left := Numeral.writes_ofInt (-7)
  have right := Numeral.writes_ofInt 12345678901234567
  have blank : Text.AllBlank [' '] := by decide
  have noBlank : Text.AllBlank [] := by decide
  obtain ⟨-, -, agree⟩ := evaluate_compared_of_writes left right blank noBlank
  have below : (-7 : Int) < 12345678901234567 := by decide
  exact (agree (Or.inl (by decide)) .below).2 below

/-- Two codes of sixteen digits that differ in the last one count as equal. -/
theorem evaluate_compared_serials :
    Numeral.Writes 9007199254740993 "9007199254740993".toList ∧
      Numeral.Writes 9007199254740992 "9007199254740992".toList ∧
      evaluate (compared .equal [' '] [' '] "9007199254740993".toList
        "9007199254740992".toList) = true ∧
      ¬ Comparison.equal.Relates (9007199254740993 : Int) 9007199254740992 := by
  have first : Numeral.ofInt 9007199254740993 = "9007199254740993".toList := by decide +kernel
  have second : Numeral.ofInt 9007199254740992 = "9007199254740992".toList := by decide +kernel
  refine ⟨first ▸ Numeral.writes_ofInt _, second ▸ Numeral.writes_ofInt _, ?_, ?_⟩
  · decide +kernel
  · simp only [Comparison.Relates]
    decide

/-! ## Dates -/

/-- The text of a date holds no sign of operators. -/
theorem Signless.ofIsoText (date : Date) :
    Signless date.isoText := by
  intro c member
  exact inRanges_eq_false_of_isNumberChar (by decide) (by decide)
    (Date.isNumberChar_of_isIsoChar (Date.isIsoChar_of_mem_isoText c member))

/-- Dates in ten ASCII characters compare as in the calendar. -/
theorem evaluate_compared_of_isIso
    {date other : Date}
    (comparison : Comparison)
    (leftIso : Date.IsIso left date)
    (rightIso : Date.IsIso right other)
    (blankBefore : Text.AllBlank before)
    (blankAfter : Text.AllBlank after) :
    evaluate (compared comparison before after left right) = true ↔
      comparison.Relates date other := by
  obtain rfl := Date.isIso_iff.1 leftIso
  obtain rfl := Date.isIso_iff.1 rightIso
  rw [evaluate_compared comparison (.ofIsoText date) (.ofIsoText other) blankBefore blankAfter,
    Date.trim_isoText, Date.trim_isoText, Comparison.holdsOfTexts_iff,
    Comparison.compares_of_unnumbered other.parseNumber?_isoText,
    Comparison.relates_map Date.isoText_strictMono]

theorem evaluate_compared_of_isIso_leapDay :
    evaluate (compared .below [' '] [' '] "2024-02-29".toList "2024-12-01".toList) = true := by
  let date : Date := ⟨2024, 2, 29, by decide, by decide, by decide⟩
  let other : Date := ⟨2024, 12, 1, by decide, by decide, by decide⟩
  have leftIso : Date.IsIso "2024-02-29".toList date := ⟨by decide, by decide, by decide⟩
  have rightIso : Date.IsIso "2024-12-01".toList other := ⟨by decide, by decide, by decide⟩
  have blank : Text.AllBlank [' '] := by decide
  have earlier : date < other := Date.lt_iff.2 (by decide)
  exact (evaluate_compared_of_isIso .below leftIso rightIso blank blank).2 earlier

end Condition
end LabelPress
