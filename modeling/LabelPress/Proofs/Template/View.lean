import LabelPress.Template

/-!
# What a template sees

Of its row a template sees the texts that the names of columns find, and of its context
the place of the row and the date.  Main statement: a template has the same text under
rows and contexts that agree on these.  So neither the size of the batch nor the time of
day nor the way in which the cells are listed shows in a text.

The statement goes from the functions over the expressions to the templates, one lemma
for each function of the evaluation that looks at a row or a context.
-/

namespace LabelPress

/-- Two rows with their contexts that agree on all that a template sees. -/
structure SameView
    (row : Row)
    (context : Context)
    (otherRow : Row)
    (otherContext : Context) : Prop where
  /-- Every name finds the same text. -/
  columns : ∀ name, row.column? name = otherRow.column? name
  /-- The rows stand at the same place. -/
  place : context.rowIndex = otherContext.rowIndex
  /-- The labels are rendered on the same day. -/
  date : context.now.date = otherContext.now.date

namespace SameView

variable {row otherRow : Row} {context otherContext : Context}

/-! ## Functions -/

section
variable (same : SameView row context otherRow otherContext)
include same

theorem dateOrToday_eq (text : Text) :
    Builtin.dateOrToday context text = Builtin.dateOrToday otherContext text := by
  rw [Builtin.dateOrToday, Builtin.dateOrToday, same.date]

theorem applyAddDays_eq
    (daysPerStep : Int)
    (arguments : List Text) :
    Builtin.applyAddDays daysPerStep arguments context =
      Builtin.applyAddDays daysPerStep arguments otherContext := by
  simp only [Builtin.applyAddDays, same.dateOrToday_eq]

theorem applyCounter_eq (arguments : List Text) :
    Builtin.applyCounter arguments context = Builtin.applyCounter arguments otherContext := by
  simp only [Builtin.applyCounter, same.place]

theorem applyLot_eq (arguments : List Text) :
    Builtin.applyLot arguments context = Builtin.applyLot arguments otherContext := by
  simp only [Builtin.applyLot, same.place, same.date]

theorem resolveOperand_eq :
    Builtin.resolveOperand row = Builtin.resolveOperand otherRow := by
  funext operand
  rw [Builtin.resolveOperand, Builtin.resolveOperand, same.columns]

theorem applyChoose_eq (arguments : List Text) :
    Builtin.applyChoose arguments row = Builtin.applyChoose arguments otherRow := by
  rw [Builtin.applyChoose, Builtin.applyChoose, same.resolveOperand_eq]

/-- No function sees more of the row and the context. -/
theorem apply_eq
    (builtin : Builtin)
    (arguments : List Text) :
    builtin.apply arguments row context = builtin.apply arguments otherRow otherContext := by
  cases builtin with
  | today | now => simp only [Builtin.apply, same.date]
  | addDays => exact same.applyAddDays_eq 1 arguments
  | addMonths => exact same.applyAddDays_eq daysPerMonth arguments
  | formatDate => simp only [Builtin.apply, same.dateOrToday_eq]
  | counter => exact same.applyCounter_eq arguments
  | lot => exact same.applyLot_eq arguments
  | choose => exact same.applyChoose_eq arguments
  | _ => rfl

theorem callFunction_eq
    (name : Text)
    (arguments : List Text) :
    callFunction name arguments row context =
      callFunction name arguments otherRow otherContext := by
  unfold callFunction
  cases Builtin.ofName? name with
  | none => rfl
  | some builtin => exact same.apply_eq builtin arguments

end

/-! ## Expressions -/

mutual

/-- An expression has the same text, or the same fault, at any depth. -/
theorem eval_eq
    (same : SameView row context otherRow otherContext)
    (tree : Expr) :
    tree.eval row context = tree.eval otherRow otherContext := by
  cases tree with
  | literal value => rfl
  | column name fallback => rw [Expr.eval, Expr.eval, same.columns]
  | call function arguments =>
      simp only [Expr.eval, same.evalAll_eq arguments, same.callFunction_eq]
  | otherwise primary alternative written =>
      simp only [Expr.eval, same.eval_eq primary, same.eval_eq alternative]
  | hole => rfl

theorem evalAll_eq
    (same : SameView row context otherRow otherContext)
    (trees : List Expr) :
    Expr.evalAll row context trees = Expr.evalAll otherRow otherContext trees := by
  cases trees with
  | nil => rfl
  | cons first others => simp only [Expr.evalAll, same.eval_eq first, same.evalAll_eq others]

end

section
variable (same : SameView row context otherRow otherContext)
include same

theorem evalText_eq (text : Text) :
    Expr.evalText row context text = Expr.evalText otherRow otherContext text := by
  unfold Expr.evalText
  cases EvalFault.liftSyntax (Expr.parse text) with
  | error fault => rfl
  | ok tree => simp only [same.eval_eq tree]

/-! ## Templates -/

theorem substitute_eq (template : Text) :
    Template.substitute row context template =
      Template.substitute otherRow otherContext template := by
  unfold Template.substitute
  congr 1
  funext segment
  cases segment with
  | plain c => rfl
  | span body => exact same.evalText_eq (Text.trim body)

theorem firstUsable_eq (candidates : List Text) :
    Template.firstUsable row context candidates =
      Template.firstUsable otherRow otherContext candidates := by
  induction candidates with
  | nil => rfl
  | cons candidate others inductionHypothesis =>
      cases others with
      | nil => rw [Template.firstUsable, Template.firstUsable, same.substitute_eq]
      | cons next others =>
          simp only [Template.firstUsable, same.substitute_eq, inductionHypothesis]

/-- A template has the same text under rows and contexts that look the same to it. -/
theorem evaluate_eq (template : Text) :
    Template.evaluate row context template =
      Template.evaluate otherRow otherContext template := by
  unfold Template.evaluate
  simp only [same.substitute_eq, same.firstUsable_eq]

end
end SameView
end LabelPress
