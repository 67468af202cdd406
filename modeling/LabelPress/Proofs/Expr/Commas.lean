import LabelPress.Proofs.Expr.Argument
import LabelPress.Proofs.Text.Search

/-!
# Arguments between commas

The scanner that finds a token and the one that cuts arguments keep the same state, but
each in its own way.  Main statement: arguments are cut at the commas that are found, and
at no others.  So the arguments of a text with a top-level comma are those of the two texts
around it, and this determines the arguments of every text.

The scan is back at its start behind every top-level comma, whatever parentheses came
before, so what follows the comma is cut as it is cut alone.
-/

namespace LabelPress

open ScanState

namespace ScanState

/-- The top level is where a scan starts. -/
theorem isTop_iff_eq_start {state : ScanState} :
    state.isTop ↔ state = start := by
  obtain ⟨quote, depth⟩ := state
  simp [isTop, start]

end ScanState

section
variable {c : Char} {state : ScanState} {text left right : Text}

/-- A character that is not found is hidden. -/
theorem hides_of_findTopLevelFrom_eq_none
    (plain : isPlain c)
    (absent : findTopLevelFrom [c] state text = none) :
    Hides c state text := by
  induction text generalizing state with
  | nil => trivial
  | cons d rest inductionHypothesis =>
      rw [findTopLevelFrom] at absent
      split at absent
      · cases absent
      · rename_i passed
        refine ⟨?_, inductionHypothesis (Option.map_eq_none_iff.1 absent)⟩
        rintro top rfl
        simp [top, plain] at passed

/-- A character that is found first is hidden before and stands at the top level. -/
theorem hides_of_findTopLevelFrom_eq_length
    (plain : isPlain c)
    (found : findTopLevelFrom [c] state (left ++ c :: right) = some left.length) :
    Hides c state left ∧ state.run left = start := by
  induction left generalizing state with
  | nil =>
      rw [List.nil_append, findTopLevelFrom] at found
      split at found
      · rename_i here
        simp only [Bool.and_eq_true] at here
        exact ⟨trivial, isTop_iff_eq_start.1 here.1.1⟩
      · simp at found
  | cons d rest inductionHypothesis =>
      rw [List.cons_append, findTopLevelFrom] at found
      split at found
      · simp at found
      · rename_i passed
        obtain ⟨place, later, same⟩ := Option.map_eq_some_iff.1 found
        obtain rfl : place = rest.length := by simpa using same
        obtain ⟨hidden, closed⟩ := inductionHypothesis later
        refine ⟨⟨?_, hidden⟩, closed⟩
        rintro top rfl
        simp [top, plain] at passed

/-- A single character is found where a text hides it no longer. -/
theorem findTopLevel?_eq_length_iff
    (plain : isPlain c) :
    findTopLevel? (left ++ c :: right) [c] = some left.length ↔
      Hides c start left ∧ start.run left = start := by
  constructor
  · exact hides_of_findTopLevelFrom_eq_length plain
  · rintro ⟨hidden, closed⟩
    rw [findTopLevel?, findTopLevelFrom_append hidden, closed,
      findTopLevelFrom_of_isPrefixOf (by decide) plain (by simp)]
    simp

theorem findTopLevel?_eq_none_iff
    (plain : isPlain c) :
    findTopLevel? text [c] = none ↔ Hides c start text :=
  ⟨hides_of_findTopLevelFrom_eq_none plain, findTopLevelFrom_eq_none⟩

/-- A text is parted by the first place at which it does not hide a character. -/
theorem exists_append_cons_of_findTopLevel?
    {place : Nat}
    (plain : isPlain c)
    (found : findTopLevel? text [c] = some place) :
    ∃ left right, text = left ++ c :: right ∧ Hides c start left ∧ start.run left = start := by
  obtain ⟨left, right, parted, first⟩ :=
    exists_append_of_findTopLevel? (Option.isSome_iff_exists.2 ⟨place, found⟩)
  rw [List.append_assoc, List.singleton_append] at parted
  subst parted
  exact ⟨left, right, rfl, (findTopLevel?_eq_length_iff plain).1 first⟩

end

namespace Argument

/-- The segments between the commas, joined with commas, are the text. -/
theorem join_cutAtCommas
    (state : ScanState)
    (text : Text) :
    Text.join [','] (cutAtCommas state text) = text := by
  induction text generalizing state with
  | nil => rfl
  | cons c rest inductionHypothesis =>
      rw [cutAtCommas]
      split
      · rename_i comma
        obtain ⟨first, others, cut⟩ := List.exists_cons_of_ne_nil (cutAtCommas_ne_nil start rest)
        have behind := inductionHypothesis start
        rw [cut] at behind ⊢
        simp only [Bool.and_eq_true, beq_iff_eq] at comma
        rw [Text.join, behind, comma.2]
        rfl
      · obtain ⟨first, others, cut⟩ :=
          List.exists_cons_of_ne_nil (cutAtCommas_ne_nil (state.next c) rest)
        have behind := inductionHypothesis (state.next c)
        rw [cut] at behind ⊢
        have front := Text.join_append_first [','] [c] first others
        rw [behind] at front
        exact front

/-- The arguments of a text, an empty one if it has none. -/
def orEmpty (arguments : List Argument) : List Argument :=
  if arguments = [] then [⟨[], false⟩] else arguments

/-- Leaving out an argument that is alone and empty is undone. -/
theorem orEmpty_dropEmptyLast (argument : Argument) :
    orEmpty (dropEmptyLast [argument]) = [argument] := by
  by_cases empty : argument = ⟨[], false⟩
  · rw [empty]
    rfl
  · rw [dropEmptyLast_singleton empty]
    rfl

theorem split_eq_ok
    {inner : Text}
    {arguments : List Argument} :
    split inner = .ok arguments ↔
      (start.run inner).quote = none ∧
        arguments = dropEmptyLast ((cutAtCommas start inner).map ofText) := by
  rw [split]
  cases (start.run inner).quote with
  | none => simp [eq_comm]
  | some quote => simp

/-- A text without a top-level comma has one argument, or none if that is empty. -/
theorem split_eq_ok_of_hides
    {text : Text}
    {arguments : List Argument}
    (hidden : Hides ',' start text) :
    split text = .ok arguments ↔
      (start.run text).quote = none ∧ arguments = dropEmptyLast [ofText text] := by
  rw [split_eq_ok, cutAtCommas_of_hides hidden, List.map_singleton]

theorem length_dropEmptyLast_le (arguments : List Argument) :
    (dropEmptyLast arguments).length ≤ arguments.length := by
  rw [dropEmptyLast]
  split
  · rw [List.length_dropLast]
    omega
  · exact Nat.le_refl _

/--
A way to read arguments keeps to the top-level commas that are found.  What stands before
the first one is an argument, even if it is empty, and what stands behind it is read as if
it stood alone; a fault there is a fault of the whole text.
-/
def CutsAtCommas (read : Text → Except SyntaxFault (List Argument)) : Prop :=
  ∀ left right, findTopLevel? (left ++ ',' :: right) [','] = some left.length →
    ∃ first, read left = .ok first ∧
      read (left ++ ',' :: right) =
        match read right with
        | .ok others => .ok (orEmpty first ++ others)
        | .error _ => .error (.unclosedQuote (left ++ ',' :: right))

theorem cutsAtCommas_split : CutsAtCommas split := by
  intro left right found
  obtain ⟨hidden, closed⟩ := (findTopLevel?_eq_length_iff (by decide)).1 found
  have alone := (split_eq_ok_of_hides hidden).2 ⟨by rw [closed]; rfl, rfl⟩
  have behind : start.run (left ++ ',' :: right) = start.run right := by
    rw [run_append, closed]
    rfl
  have segments : (cutAtCommas start right).map ofText ≠ [] := by
    simpa using cutAtCommas_ne_nil start right
  refine ⟨_, alone, ?_⟩
  rw [split, split, behind, cutAtCommas_append_comma hidden (isTop_iff_eq_start.2 closed),
    List.map_cons, dropEmptyLast_cons _ segments, orEmpty_dropEmptyLast]
  split <;> rfl

/-- Texts around a comma that is found are shorter, and the first one has no such comma. -/
theorem CutsAtCommas.eq
    {read other : Text → Except SyntaxFault (List Argument)}
    (cuts : CutsAtCommas read)
    (otherCuts : CutsAtCommas other)
    (alone : ∀ text, findTopLevel? text [','] = none → read text = other text)
    (text : Text) :
    read text = other text := by
  induction length : text.length using Nat.strong_induction_on generalizing text with
  | _ bound inductionHypothesis =>
      cases found : findTopLevel? text [','] with
      | none => exact alone text found
      | some place =>
          obtain ⟨left, right, rfl, hidden, closed⟩ :=
            exists_append_cons_of_findTopLevel? (by decide) found
          have first : findTopLevel? (left ++ ',' :: right) [','] = some left.length :=
            (findTopLevel?_eq_length_iff (by decide)).2 ⟨hidden, closed⟩
          have same := alone left ((findTopLevel?_eq_none_iff (by decide)).2 hidden)
          have shorter : right.length < bound := by
            rw [← length, List.length_append, List.length_cons]
            omega
          obtain ⟨arguments, leftRead, whole⟩ := cuts left right first
          obtain ⟨arguments', leftRead', whole'⟩ := otherCuts left right first
          obtain rfl : arguments = arguments' :=
            Except.ok.inj (leftRead.symm.trans (same.trans leftRead'))
          rw [whole, whole', inductionHypothesis _ shorter right rfl]

/--
Arguments are cut at the top-level commas that are found.  A text with one has the argument
before it and those of the text behind it, and a text without one has at most one argument.
No other way to read arguments does the same and agrees on the texts without a comma.
-/
theorem split_determined :
    CutsAtCommas split ∧
      (∀ text arguments, findTopLevel? text [','] = none → split text = .ok arguments →
        arguments.length ≤ 1) ∧
      ∀ read, CutsAtCommas read →
        (∀ text, findTopLevel? text [','] = none → read text = split text) → read = split := by
  refine ⟨cutsAtCommas_split, ?_, ?_⟩
  · intro text arguments absent read
    have hidden := (findTopLevel?_eq_none_iff (by decide)).1 absent
    obtain ⟨-, rfl⟩ := (split_eq_ok_of_hides hidden).1 read
    exact length_dropEmptyLast_le [ofText text]
  · intro read cuts alone
    funext text
    exact cuts.eq cutsAtCommas_split alone text

/-- Parentheses may be closed before they are opened, and quotes hide a comma. -/
theorem split_determined_parentheses :
    let left : Text := "a)(b".toList
    let right : Text := "\"c,\"".toList
    findTopLevel? (left ++ ',' :: right) [','] = some left.length ∧
      split (left ++ ',' :: right) = .ok [⟨left, false⟩, ⟨"c,".toList, true⟩] := by
  intro left right
  have found : findTopLevel? (left ++ ',' :: right) [','] = some left.length := by decide
  have before : split left = .ok [⟨left, false⟩] := by rfl
  have behind : split right = .ok [⟨"c,".toList, true⟩] := by rfl
  obtain ⟨first, read, whole⟩ := split_determined.1 left right found
  obtain rfl : [⟨left, false⟩] = first := Except.ok.inj (before.symm.trans read)
  rw [behind] at whole
  exact ⟨found, whole⟩

end Argument
end LabelPress
