import LabelPress.Expr.Apply
import LabelPress.Proofs.Expr.Mark
import LabelPress.Proofs.Number.Order
import LabelPress.Proofs.Outcome
import LabelPress.Proofs.Text.Search
import LabelPress.Proofs.Text.Trim
import Mathlib.Data.Char
import Mathlib.Data.List.Lex

/-!
# What conditions say

The comparison of two texts as one of two members of a linear order, the place where a
condition is cut, and the texts that its operands stand for.  Main statements: a condition
with an operator is cut at the first place of the strongest one and compares what stands on
both sides of it, and a condition without an operator is false only if it is empty or one of
two texts.
-/

namespace LabelPress
namespace Text

/-- Texts are compared by their code points, from the left. -/
theorem compares_order
    (left right : Text) :
    (order left right).Compares left right := by
  have codes : StrictMono Char.toNat := fun _ _ below => below
  induction left generalizing right with
  | nil =>
      cases right with
      | nil => rfl
      | cons d right => exact List.Lex.nil
  | cons c left inductionHypothesis =>
      cases right with
      | nil => exact List.Lex.nil
      | cons d right =>
          rw [order]
          rcases lt_trichotomy c d with below | rfl | above
          · rw [compare_lt_iff_lt.2 (codes below)]
            exact List.Lex.rel below
          · have behind : StrictMono (List.cons c) := fun _ _ below => List.Lex.cons below
            rw [compare_eq_iff_eq.2 rfl]
            exact behind.compares.2 (inductionHypothesis right)
          · rw [compare_gt_iff_gt.2 (codes above)]
            exact List.Lex.rel above

end Text

namespace Comparison

/-- The comparison of two members of a linear order. -/
def Relates
    {α : Type}
    [LinearOrder α] : Comparison → α → α → Prop
  | .equal, x, y => x = y
  | .different, x, y => x ≠ y
  | .atLeast, x, y => y ≤ x
  | .atMost, x, y => x ≤ y
  | .above, x, y => y < x
  | .below, x, y => x < y

theorem holds_iff
    {α : Type}
    [LinearOrder α]
    {order : Ordering}
    {x y : α}
    (compares : order.Compares x y)
    (comparison : Comparison) :
    comparison.holds order = true ↔ comparison.Relates x y := by
  cases comparison with
  | equal => simp [holds, Relates, compares.eq_eq]
  | different => simp [holds, Relates, compares.eq_eq]
  | atLeast => simp [holds, Relates, compares.eq_lt]
  | atMost => simp [holds, Relates, compares.eq_gt]
  | above => simp [holds, Relates, compares.eq_gt]
  | below => simp [holds, Relates, compares.eq_lt]

/-- The comparison of two texts: of the numbers that they are, or else of their code points. -/
def Compares
    (comparison : Comparison)
    (left right : Text) : Prop :=
  match numberPlace? left, numberPlace? right with
  | some x, some y => comparison.Relates x y
  | _, _ => comparison.Relates left right

/-- With a text that is no number only the code points count. -/
theorem compares_of_unnumbered
    {comparison : Comparison}
    {left right : Text}
    (unnumbered : parseNumber? right = none) :
    comparison.Compares left right ↔ comparison.Relates left right := by
  rw [Compares, numberPlace?_eq_none_iff.2 unnumbered]
  cases numberPlace? left <;> rfl

theorem holdsOfTexts_iff
    {comparison : Comparison}
    {left right : Text} :
    comparison.holdsOfTexts left right = true ↔ comparison.Compares left right := by
  rw [holdsOfTexts, Compares]
  cases leftParsed : parseNumber? left with
  | none =>
      simp only [numberPlace?_eq_none_iff.2 leftParsed]
      exact holds_iff (Text.compares_order left right) comparison
  | some leftNumber =>
      obtain ⟨x, leftPlace, leftFound⟩ := exists_of_parseNumber? leftParsed
      cases rightParsed : parseNumber? right with
      | none =>
          simp only [leftFound, numberPlace?_eq_none_iff.2 rightParsed]
          exact holds_iff (Text.compares_order left right) comparison
      | some rightNumber =>
          obtain ⟨y, rightPlace, rightFound⟩ := exists_of_parseNumber? rightParsed
          rw [leftFound, rightFound]
          change comparison.holdsOfNumbers leftNumber rightNumber = true ↔ comparison.Relates x y
          rw [holdsOfNumbers, Double.compare?_eq_some leftPlace rightPlace]
          exact holds_iff (cmp_compares x y) comparison

instance (comparison : Comparison) (left right : Text) :
    Decidable (comparison.Compares left right) :=
  decidable_of_iff _ holdsOfTexts_iff

theorem holdsOfTexts_eq
    (comparison : Comparison)
    (left right : Text) :
    comparison.holdsOfTexts left right = decide (comparison.Compares left right) := by
  rw [Bool.eq_iff_iff, decide_eq_true_iff, holdsOfTexts_iff]

/-- The comparisons that win over another one. -/
def stronger (comparison : Comparison) : List Comparison :=
  byPriority.takeWhile (· ≠ comparison)

theorem mem_byPriority (comparison : Comparison) :
    comparison ∈ byPriority := by
  cases comparison <;> decide

theorem token_ne_nil (comparison : Comparison) :
    comparison.token ≠ [] := by
  cases comparison <;> decide

/-- The comparisons in front of one of them are those that win over it. -/
theorem stronger_eq
    {comparison : Comparison}
    {before after : List Comparison}
    (same : byPriority = before ++ comparison :: after) :
    comparison.stronger = before := by
  have distinct : (before ++ comparison :: after).Nodup := by
    rw [← same]
    decide
  have absent : comparison ∉ before := fun member =>
    (List.nodup_append.1 distinct).2.2 comparison member comparison List.mem_cons_self rfl
  rw [stronger, same, List.takeWhile_append_of_pos, List.takeWhile_cons_of_neg (by simp),
    List.append_nil]
  intro other member
  simpa using ne_of_mem_of_not_mem member absent

end Comparison

namespace Condition

/-! ## Where a condition is cut -/

/-- The first place of an operator in a condition without a stronger one. -/
structure CutsAt
    (condition : Text)
    (comparison : Comparison)
    (left right : Text) : Prop where
  parted : condition = left ++ comparison.token ++ right
  first : ¬ comparison.token <:+: left ++ comparison.token.dropLast
  strongest : ∀ other ∈ comparison.stronger, ¬ other.token <:+: condition

/-- No operator occurs in a condition. -/
def Bare (condition : Text) : Prop :=
  ∀ comparison : Comparison, ¬ comparison.token <:+: condition

variable {condition left right : Text} {comparison : Comparison}

theorem parts?_eq_none_iff :
    parts? condition = none ↔ Bare condition := by
  simp only [parts?, List.findSome?_eq_none_iff, Option.map_eq_none_iff,
    Text.splitOnce?_eq_none_iff (Comparison.token_ne_nil _), Bare]
  exact ⟨fun absent other => absent other other.mem_byPriority, fun absent other _ => absent other⟩

/-- A condition is cut at the first place of its strongest operator. -/
theorem parts?_eq_some_iff
    {parts : Parts} :
    parts? condition = some parts ↔
      ∃ left right, CutsAt condition parts.comparison left right ∧
        parts.left = Text.trim left ∧ parts.right = Text.trim right := by
  simp only [parts?, List.findSome?_eq_some_iff, Option.map_eq_some_iff, Option.map_eq_none_iff,
    Text.splitOnce?_eq_none_iff (Comparison.token_ne_nil _)]
  constructor
  · rintro ⟨before, comparison, after, listed, ⟨⟨left, right⟩, cut, rfl⟩, weaker⟩
    obtain ⟨parted, first⟩ :=
      (Text.splitOnce?_eq_some_iff (Comparison.token_ne_nil comparison)).1 cut
    have strongest : ∀ other ∈ comparison.stronger, ¬ other.token <:+: condition := by
      rwa [Comparison.stronger_eq listed]
    exact ⟨left, right, ⟨parted, first, strongest⟩, rfl, rfl⟩
  · obtain ⟨comparison, leftOperand, rightOperand⟩ := parts
    rintro ⟨left, right, ⟨parted, first, strongest⟩, rfl, rfl⟩
    obtain ⟨before, after, listed⟩ := List.append_of_mem comparison.mem_byPriority
    have cut := (Text.splitOnce?_eq_some_iff (Comparison.token_ne_nil comparison)).2 ⟨parted, first⟩
    rw [Comparison.stronger_eq listed] at strongest
    exact ⟨before, comparison, after, listed, ⟨(left, right), cut, rfl⟩, strongest⟩

/-- A condition without an operator is the only one that is not cut. -/
theorem bare_or_cutsAt (condition : Text) :
    Bare condition ∨ ∃ comparison left right, CutsAt condition comparison left right := by
  cases cut : parts? condition with
  | none => exact Or.inl (parts?_eq_none_iff.1 cut)
  | some parts =>
      obtain ⟨left, right, cutsAt, -⟩ := parts?_eq_some_iff.1 cut
      exact Or.inr ⟨parts.comparison, left, right, cutsAt⟩

/-- The code points of the characters that operators are written with. -/
def signRanges : List (Nat × Nat) :=
  [(0x21, 0x21), (0x3c, 0x3e)]

/-- A character that operators are written with. -/
def isSign (c : Char) : Bool :=
  Text.inRanges signRanges c

/-- No character of a text belongs to operators. -/
def Signless (text : Text) : Prop :=
  ∀ c ∈ text, isSign c = false

instance (text : Text) : Decidable (Signless text) :=
  inferInstanceAs (Decidable (∀ c ∈ text, isSign c = false))

theorem Signless.ofBlank
    (blank : Text.AllBlank left) :
    Signless left := by
  intro c member
  exact Text.inRanges_eq_false_of_disjoint (by decide) (blank c member)

theorem Signless.ofNumber
    (number : (parseNumber? left).isSome) :
    Signless left := by
  intro c member
  exact inRanges_eq_false_of_isNumberChar (by decide) (by decide)
    (isNumberChar_of_parseNumber? number c member)

theorem Signless.append
    (leftSignless : Signless left)
    (rightSignless : Signless right) :
    Signless (left ++ right) := by
  intro c member
  rcases List.mem_append.1 member with inLeft | inRight
  · exact leftSignless c inLeft
  · exact rightSignless c inRight

/-- No text with a sign of operators in it is a number. -/
theorem parseNumber?_eq_none_of_isSign
    {c : Char}
    (member : c ∈ condition)
    (sign : isSign c) :
    parseNumber? condition = none := by
  rw [← Option.not_isSome_iff_eq_none]
  intro number
  rw [Signless.ofNumber number c member] at sign
  cases sign

theorem isSign_of_mem_token :
    ∀ c ∈ comparison.token, isSign c = true := by
  cases comparison <;> decide

theorem not_mem_token
    {c : Char}
    (unsigned : isSign c = false)
    (comparison : Comparison) :
    c ∉ comparison.token := by
  intro inToken
  rw [isSign_of_mem_token c inToken] at unsigned
  cases unsigned

theorem Signless.not_mem_token
    (signless : Signless left)
    (comparison : Comparison) :
    ∀ c ∈ left, c ∉ comparison.token :=
  fun c member => Condition.not_mem_token (signless c member) comparison

theorem not_token_isInfix_of_stronger :
    ∀ other ∈ comparison.stronger, ¬ other.token <:+: comparison.token := by
  cases comparison <;> decide

/-- An operator between two texts without signs is where they are parted. -/
theorem CutsAt.ofSignless
    (comparison : Comparison)
    (leftSignless : Signless left)
    (rightSignless : Signless right) :
    CutsAt (left ++ comparison.token ++ right) comparison left right where
  parted := rfl
  first found := by
    have inside :=
      Text.isInfix_append_right comparison.token_ne_nil (leftSignless.not_mem_token _) found
    have size := inside.length_le
    have positive := List.length_pos_iff.2 comparison.token_ne_nil
    rw [List.length_dropLast] at size
    omega
  strongest other wins found := by
    have solid := other.token_ne_nil
    have front := Text.isInfix_append_left solid (rightSignless.not_mem_token other) found
    have inside := Text.isInfix_append_right solid (leftSignless.not_mem_token other) front
    exact not_token_isInfix_of_stronger other wins inside

/-- What can be compared: a word without signs, or a number. -/
inductive IsOperand : Text → Prop where
  | word
      {token : Text}
      (isWord : Expr.IsWord token)
      (signless : Signless token) :
      IsOperand token
  | number
      {token : Text}
      (number : (parseNumber? token).isSome) :
      IsOperand token

theorem IsOperand.isWord
    {token : Text}
    (isOperand : IsOperand token) :
    Expr.IsWord token := by
  cases isOperand with
  | word isWord signless => exact isWord
  | number number => exact .ofNumber number

theorem IsOperand.signless
    {token : Text}
    (isOperand : IsOperand token) :
    Signless token := by
  cases isOperand with
  | word isWord signless => exact signless
  | number number => exact .ofNumber number

/-! ## What a condition comes to -/

/-- The text that an operand stands for: a column's, or else its own. -/
inductive StandsFor (row : Row) : Text → Text → Prop where
  /-- No operand stands for itself. -/
  | nothing : StandsFor row [] []
  /-- A number stands for itself. -/
  | number
      {token : Text}
      (number : (parseNumber? token).isSome) :
      StandsFor row token token
  /-- The name of no column stands for itself. -/
  | missing
      {name : Text}
      (unnumbered : parseNumber? name = none)
      (column : row.column? name = .ok none) :
      StandsFor row name name
  | column
      {name text : Text}
      (nonempty : name ≠ [])
      (unnumbered : parseNumber? name = none)
      (column : row.column? name = .ok (some text)) :
      StandsFor row name text

/-- A name has a text only if the column that it finds does. -/
theorem StandsFor.succeeds
    {row : Row}
    {name text : Text}
    (standsFor : StandsFor row name text)
    (nonempty : name ≠ [])
    (unnumbered : parseNumber? name = none) :
    Succeeds (row.column? name) := by
  cases standsFor with
  | nothing => exact absurd rfl nonempty
  | number number => simp [unnumbered] at number
  | missing _ column => exact ⟨none, column⟩
  | column _ _ column => exact ⟨some text, column⟩

theorem resolveOperand_self
    {row : Row}
    {operand : Text}
    (plain : operand = [] ∨ (parseNumber? operand).isSome) :
    Builtin.resolveOperand row operand = .ok operand := by
  rw [Builtin.resolveOperand, if_pos (by simpa using plain)]

theorem resolveOperand_name
    {row : Row}
    {name : Text}
    (nonempty : name ≠ [])
    (unnumbered : parseNumber? name = none) :
    Builtin.resolveOperand row name =
      EvalFault.liftNumeric ((row.column? name).map fun text => text.getD name) := by
  rw [Builtin.resolveOperand, if_neg (by simp [nonempty, unnumbered])]

theorem standsFor_of_resolveOperand
    {row : Row}
    {operand text : Text}
    (resolved : Builtin.resolveOperand row operand = .ok text) :
    StandsFor row operand text := by
  by_cases nothing : operand = []
  · rw [resolveOperand_self (Or.inl nothing), nothing] at resolved
    cases resolved
    rw [nothing]
    exact .nothing
  cases unnumbered : parseNumber? operand with
  | some double =>
      have number : (parseNumber? operand).isSome := Option.isSome_iff_exists.2 ⟨_, unnumbered⟩
      rw [resolveOperand_self (Or.inr number)] at resolved
      cases resolved
      exact .number number
  | none =>
      rw [resolveOperand_name nothing unnumbered] at resolved
      cases column : row.column? operand with
      | error fault =>
          rw [column] at resolved
          cases resolved
      | ok found =>
          rw [column] at resolved
          cases resolved
          cases found with
          | none => exact .missing unnumbered column
          | some text => exact .column nothing unnumbered column

theorem StandsFor.resolveOperand_eq
    {row : Row}
    {operand text : Text}
    (standsFor : StandsFor row operand text) :
    Builtin.resolveOperand row operand = .ok text := by
  cases standsFor with
  | nothing => exact resolveOperand_self (Or.inl rfl)
  | number number => exact resolveOperand_self (Or.inr number)
  | missing unnumbered column =>
      by_cases nothing : operand = []
      · exact resolveOperand_self (Or.inl nothing)
      · rw [resolveOperand_name nothing unnumbered, column]
        rfl
  | column nonempty unnumbered column =>
      rw [resolveOperand_name nonempty unnumbered, column]
      rfl

/-- Resolving an operand gives the text that it stands for. -/
theorem resolveOperand_eq_ok
    {row : Row}
    {operand text : Text} :
    Builtin.resolveOperand row operand = .ok text ↔ StandsFor row operand text :=
  ⟨standsFor_of_resolveOperand, StandsFor.resolveOperand_eq⟩

theorem isTruthy_eq (text : Text) :
    isTruthy text = decide (text ∉ [[], ['0'], "false".toList]) := by
  rw [Bool.eq_iff_iff]
  simp [isTruthy, and_assoc]

/-- Without an operator a condition is false only as one of three texts. -/
theorem Bare.evaluateWith_eq
    {ε : Type}
    {resolve : Text → Except ε Text}
    (bare : Bare condition) :
    evaluateWith resolve condition = .ok (decide (condition ∉ [[], ['0'], "false".toList])) := by
  rw [evaluateWith, parts?_eq_none_iff.2 bare, isTruthy_eq]

/-- With an operator the texts are compared that the operands around it stand for. -/
theorem CutsAt.evaluateWith_eq_ok
    {row : Row}
    {answer : Bool}
    (cutsAt : CutsAt condition comparison left right) :
    evaluateWith (Builtin.resolveOperand row) condition = .ok answer ↔
      ∃ x y, StandsFor row (Text.trim left) x ∧ StandsFor row (Text.trim right) y ∧
        decide (comparison.Compares x y) = answer := by
  have cut : parts? condition = some ⟨comparison, Text.trim left, Text.trim right⟩ :=
    parts?_eq_some_iff.2 ⟨left, right, cutsAt, rfl, rfl⟩
  rw [evaluateWith, cut]
  simp only [bind_eq_ok, resolveOperand_eq_ok, Comparison.holdsOfTexts_eq]
  constructor
  · rintro ⟨x, leftText, y, rightText, same⟩
    exact ⟨x, y, leftText, rightText, Except.ok.inj same⟩
  · rintro ⟨x, y, leftText, rightText, rfl⟩
    exact ⟨x, leftText, y, rightText, rfl⟩

end Condition
end LabelPress
