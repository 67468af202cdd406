import LabelPress.Proofs.Expr.Alternative
import LabelPress.Proofs.Expr.Reading
import Mathlib.Data.List.GetD

/-!
# Empty arguments

A function takes an argument that is not given for an empty one.  Main statement: empty
arguments behind those of a call never show.  A function comes to the same text or fault
with them, whatever its name, and so does an expression in which any call has some of them.
So it never shows either that the reader leaves out a last argument that is empty.

The functions look at their arguments by place, except for the one that joins them.  Lists
of arguments that agree on both are the same to all of them.
-/

namespace LabelPress

/-! ## Functions -/

/-- Two lists of arguments that agree on all that a function sees of them. -/
structure SameArguments (arguments others : List Text) : Prop where
  /-- The same arguments stand at all places, empty ones where none are given. -/
  places : argumentAt arguments = argumentAt others
  /-- Joined they are the same text. -/
  joined : arguments.flatten = others.flatten

namespace SameArguments

/-- Empty arguments behind others are the same as none. -/
theorem append_empty
    (arguments : List Text)
    (count : Nat) :
    SameArguments (arguments ++ List.replicate count []) arguments where
  places := by
    funext place
    rw [argumentAt, argumentAt]
    rcases Nat.lt_or_ge place arguments.length with given | missing
    · rw [List.getD_append _ _ _ _ given]
    · rw [List.getD_append_right _ _ _ _ missing, List.getD_eq_default _ _ missing]
      rw [List.getD_eq_getElem?_getD, List.getElem?_replicate]
      split <;> rfl
  joined := by
    rw [List.flatten_append, List.flatten_replicate_nil, List.append_nil]

section
variable {arguments others : List Text} (same : SameArguments arguments others)
include same

theorem applyRound_eq :
    Builtin.applyRound arguments = Builtin.applyRound others := by
  simp only [Builtin.applyRound, same.places]

/-- No function sees more of its arguments. -/
theorem apply_eq
    (builtin : Builtin)
    (row : Row)
    (context : Context) :
    builtin.apply arguments row context = builtin.apply others row context := by
  cases builtin with
  | concat => rw [Builtin.apply, Builtin.apply, same.joined]
  | clip => simp only [Builtin.apply, Builtin.applyClip, same.places]
  | replace => simp only [Builtin.apply, Builtin.applyReplace, same.places]
  | addDays | addMonths => simp only [Builtin.apply, Builtin.applyAddDays, same.places]
  | counter => simp only [Builtin.apply, Builtin.applyCounter, same.places]
  | lot => simp only [Builtin.apply, Builtin.applyLot, same.places]
  | round => exact same.applyRound_eq
  | formatNumber =>
      simp only [Builtin.apply, Builtin.applyFormatNumber, same.applyRound_eq, same.places]
  | choose => simp only [Builtin.apply, Builtin.applyChoose, same.places]
  | _ => simp only [Builtin.apply, same.places]

/-- A name that no function has gives the error marker for all arguments. -/
theorem callFunction_eq
    (name : Text)
    (row : Row)
    (context : Context) :
    callFunction name arguments row context = callFunction name others row context := by
  unfold callFunction
  cases Builtin.ofName? name with
  | none => rfl
  | some builtin => exact same.apply_eq builtin row context

end
end SameArguments

/-! ## Expressions -/

namespace Argument

/-- The arguments of a call with the last one, empty or not. -/
def splitAll (inner : Text) : Except SyntaxFault (List Argument) :=
  if (ScanState.start.run inner).quote.isSome then
    .error (.unclosedQuote inner)
  else
    .ok ((cutAtCommas .start inner).map ofText)

/-- The reader leaves out a last argument that is empty, and no more than that. -/
theorem split_eq_map_splitAll (inner : Text) :
    split inner = (splitAll inner).map dropEmptyLast := by
  rw [split, splitAll]
  split <;> rfl

/-- A last argument that is left out is an empty one. -/
theorem exists_eq_dropEmptyLast_append (arguments : List Argument) :
    ∃ count, arguments = dropEmptyLast arguments ++ List.replicate count ⟨[], false⟩ := by
  rw [dropEmptyLast]
  split
  · rename_i last
    obtain ⟨front, rfl⟩ := List.getLast?_eq_some_iff.1 last
    exact ⟨1, by rw [List.dropLast_concat]; rfl⟩
  · exact ⟨0, (List.append_nil _).symm⟩

theorem exists_splitAll_eq_splitPadded :
    ∃ extra, splitAll = splitPadded extra := by
  choose extra parted using fun inner : Text =>
    exists_eq_dropEmptyLast_append ((cutAtCommas .start inner).map ofText)
  refine ⟨extra, ?_⟩
  funext inner
  rw [splitAll, splitPadded, split]
  split
  · rfl
  · exact congrArg Except.ok (parted inner)

end Argument

namespace Expr

section
variable {row : Row} {context : Context}

theorem evalAll_congr
    {trees others : List Expr}
    (same : List.Forall₂ (fun tree other => tree.eval row context = other.eval row context)
      trees others) :
    evalAll row context trees = evalAll row context others := by
  induction same with
  | nil => rfl
  | cons here _ inductionHypothesis => rw [evalAll, evalAll, here, inductionHypothesis]

/-- Empty literals behind other trees have empty texts behind theirs. -/
theorem evalAll_append_empty
    (trees : List Expr)
    (count : Nat) :
    evalAll row context (trees ++ List.replicate count (.literal [])) =
      (evalAll row context trees).map (· ++ List.replicate count []) := by
  induction trees with
  | nil =>
      rw [List.nil_append, ← List.map_replicate, evalAll_literals]
      rfl
  | cons tree others inductionHypothesis =>
      rw [List.cons_append, evalAll, evalAll, inductionHypothesis]
      cases tree.eval row context with
      | error fault => rfl
      | ok value =>
          cases evalAll row context others with
          | error fault => rfl
          | ok values => rfl

/-- Trees are evaluated part by part, and empty literals behind a call do not show. -/
theorem congruent_eval
    (row : Row)
    (context : Context)
    (extra : Text → Nat) :
    Congruent extra fun tree other => tree.eval row context = other.eval row context where
  refl _ := rfl
  otherwise same sameAlternative written := by rw [eval, eval, same, sameAlternative]
  call {nodes others inner} same function := by
    rw [eval, eval, evalAll_congr same, evalAll_append_empty]
    cases evalAll row context others with
    | error fault => rfl
    | ok values =>
        exact (SameArguments.append_empty values (extra inner)).callFunction_eq function row context

end

/-- What a text that was read comes to. -/
def evalRead
    (row : Row)
    (context : Context)
    (read : Except SyntaxFault Expr) : Except EvalFault Text := do
  let tree ← EvalFault.liftSyntax read
  tree.eval row context

/-- What a written expression comes to if the arguments of its calls are cut in another way. -/
def outcomeWith
    (cut : Text → Except SyntaxFault (List Argument))
    (row : Row)
    (context : Context)
    (text : Text) : Option (Except EvalFault Text) :=
  let reading := Reading.expression text
  (reading.readWithin cut (reading.depth + 1)).run.map (evalRead row context)

section
variable {row : Row} {context : Context}

/-- A reading that ends with trees of the same value comes to the same. -/
theorem EndsLike.map_evalRead
    {attempt : Attempt Expr}
    {read : Except SyntaxFault Expr}
    (ends : EndsLike (fun tree other => tree.eval row context = other.eval row context)
      attempt read) :
    attempt.run.map (evalRead row context) = some (evalRead row context read) := by
  cases ends with
  | ok same => exact congrArg some same
  | error fault => rfl

/-- Empty arguments behind those of the calls do not show, at whatever depth the calls stand. -/
theorem outcomeWith_splitPadded
    (extra : Text → Nat)
    (text : Text) :
    outcomeWith (Argument.splitPadded extra) row context text =
      some (outcome row context text) := by
  have ends := Reading.readWithin_endsLike (congruent_eval row context extra)
    (Nat.lt_succ_self (Reading.expression text).depth)
  exact ends.map_evalRead

end

/--
Empty arguments behind those of a call come to nothing.  A call by any name comes to the same
text or fault with one of them or with several.  The reader leaves out a last argument that
is empty; an expression comes to the same if it kept them, and also if it put any number of
empty arguments behind those of each call.
-/
theorem empty_arguments_invisible
    (row : Row)
    (context : Context) :
    (∀ name arguments,
        callFunction name (arguments ++ [[]]) row context =
          callFunction name arguments row context) ∧
      (∀ name arguments count,
        callFunction name (arguments ++ List.replicate count []) row context =
          callFunction name arguments row context) ∧
      (∀ inner, Argument.split inner =
        (Argument.splitAll inner).map Argument.dropEmptyLast) ∧
      (∀ text, outcomeWith Argument.splitAll row context text =
        some (outcome row context text)) ∧
      ∀ extra text, outcomeWith (Argument.splitPadded extra) row context text =
        some (outcome row context text) := by
  refine ⟨?_, ?_, Argument.split_eq_map_splitAll, ?_, ?_⟩
  · intro name arguments
    exact (SameArguments.append_empty arguments 1).callFunction_eq name row context
  · intro name arguments count
    exact (SameArguments.append_empty arguments count).callFunction_eq name row context
  · intro text
    obtain ⟨extra, padded⟩ := Argument.exists_splitAll_eq_splitPadded
    rw [padded]
    exact outcomeWith_splitPadded extra text
  · intro extra text
    exact outcomeWith_splitPadded extra text

end Expr
end LabelPress
