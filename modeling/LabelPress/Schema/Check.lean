import LabelPress.Document.Basic
import LabelPress.Schema.Issue

/-!
# Checks

A check turns a part of a data file into a value or into a list of issues.  Checks are
combined so that every part is looked at: the issues of a combination are those of its
parts in order, and it has a value exactly if all of them have.
-/

namespace LabelPress

/-- The outcome of a check: a value, or issues. -/
abbrev Check (α : Type) := Except (List Issue) α

namespace Check

/-- A value without issues. -/
def accept
    {α : Type}
    (value : α) : Check α :=
  .ok value

/-- Combine two outcomes, keeping the issues of both. -/
def both
    {α β γ : Type}
    (combine : α → β → γ)
    (first : Check α)
    (second : Check β) : Check γ :=
  match first, second with
  | .ok a, .ok b => .ok (combine a b)
  | .ok _, .error issues => .error issues
  | .error issues, .ok _ => .error issues
  | .error issues, .error others => .error (issues ++ others)

/-- Give one more argument to a function under construction. -/
def andThen
    {α β : Type}
    (function : Check (α → β))
    (argument : Check α) : Check β :=
  both (fun f a => f a) function argument

/-- The outcomes of a list of checks, keeping the issues of all. -/
def all {α : Type} : List (Check α) → Check (List α)
  | [] => .ok []
  | first :: others => both List.cons first (all others)

/-- A single complaint about the whole value. -/
def reject
    {α : Type}
    (complaint : Complaint) : Check α :=
  .error [⟨[], complaint⟩]

/-- The outcome of a check on a part, with the step to that part in its issues. -/
def within
    {α : Type}
    (step : Step)
    (outcome : Check α) : Check α :=
  match outcome with
  | .ok value => .ok value
  | .error issues => .error (issues.map (Issue.within step))

/-- A required field. -/
def required
    {α : Type}
    (entries : Document.Entries)
    (name : String)
    (check : Document → Check α) : Check α :=
  within (.field name.toList) <|
    match Document.get? entries name.toList with
    | some value => check value
    | none => reject .missing

/-- A field with a default. -/
def optional
    {α : Type}
    (entries : Document.Entries)
    (name : String)
    (default : α)
    (check : Document → Check α) : Check α :=
  within (.field name.toList) <|
    match Document.get? entries name.toList with
    | some value => check value
    | none => .ok default

/-- A value that may be null. -/
def nullable
    {α : Type}
    (check : Document → Check α) : Document → Check (Option α)
  | .null => .ok none
  | value => (check value).map some

/-- A value whose null stands for the default. -/
def nullAs
    {α : Type}
    (default : α)
    (check : Document → Check α) : Document → Check α
  | .null => .ok default
  | value => check value

/-- An integer with a lower bound. -/
def atLeast
    (bound : Int)
    (check : Document → Check Int)
    (value : Document) : Check Int :=
  match check value with
  | .ok number => if number < bound then reject .greaterThanEqual else .ok number
  | .error issues => .error issues

/-- The items of a sequence, each checked in its place. -/
def items
    {α : Type}
    (check : Document → Check α) : Document → Check (List α)
  | .sequence values =>
      all (values.zipIdx.map fun entry => within (.item entry.2) (check entry.1))
  | _ => reject .listType

end Check
end LabelPress
