import LabelPress.Schema.Scalar

/-!
# Checks that complain

Where the issues of a check are.  Every check that fails has an issue, and the issues of a
mapping each start with the name of the field that they are about.  So mappings whose fields
have other names never have the same issues.
-/

namespace LabelPress

/-- There are issues, and each of them is in a field with one of the names. -/
structure Issue.InFields
    (names : List Text)
    (issues : List Issue) : Prop where
  ne_nil : issues ≠ []
  exists_name : ∀ issue ∈ issues, ∃ name ∈ names, issue.location.head? = some (.field name)

namespace Issue.InFields

variable {names others : List Text} {issues more : List Issue} {name : Text}

theorem append
    (first : InFields names issues)
    (second : InFields names more) :
    InFields names (issues ++ more) where
  ne_nil := List.append_ne_nil_of_left_ne_nil first.ne_nil more
  exists_name issue member := by
    rcases List.mem_append.1 member with here | there
    · exact first.exists_name issue here
    · exact second.exists_name issue there

theorem map_within
    (member : name ∈ names)
    (reason : issues ≠ []) :
    InFields names (issues.map (Issue.within (.field name))) where
  ne_nil := mt List.map_eq_nil_iff.1 reason
  exists_name issue found := by
    obtain ⟨inner, -, rfl⟩ := List.mem_map.1 found
    exact ⟨name, member, rfl⟩

theorem not_of_disjoint
    (located : InFields names issues)
    (disjoint : ∀ name ∈ names, name ∉ others) :
    ¬ InFields others issues := by
  intro elsewhere
  obtain ⟨issue, member⟩ := List.exists_mem_of_ne_nil issues located.ne_nil
  obtain ⟨name, known, here⟩ := located.exists_name issue member
  obtain ⟨other, otherKnown, there⟩ := elsewhere.exists_name issue member
  cases here.symm.trans there
  exact disjoint name known otherKnown

end Issue.InFields

namespace Check

variable {α β : Type} {names : List Text} {outcome : Check α}

/-- If there are issues, each of them is in a field with one of the names. -/
inductive InFields
    (names : List Text) : Check α → Prop where
  /-- There is a value. -/
  | ok (value : α) : InFields names (.ok value)
  /-- There are issues in these fields. -/
  | error
      {issues : List Issue}
      (located : Issue.InFields names issues) : InFields names (.error issues)

namespace InFields

theorem of_eq_error
    {issues : List Issue}
    (located : InFields names outcome)
    (failed : outcome = .error issues) :
    Issue.InFields names issues := by
  subst failed
  cases located with
  | error located => exact located

theorem ne_error_nil (located : InFields names outcome) :
    outcome ≠ .error [] :=
  fun failed => (located.of_eq_error failed).ne_nil rfl

theorem andThen
    {function : Check (α → β)}
    (first : InFields names function)
    (second : InFields names outcome) :
    InFields names (Check.andThen function outcome) := by
  cases first with
  | ok f =>
      cases second with
      | ok value => exact .ok (f value)
      | error there => exact .error there
  | error here =>
      cases second with
      | ok value => exact .error here
      | error there => exact .error (here.append there)

theorem within
    {name : Text}
    (member : name ∈ names)
    (reason : outcome ≠ .error []) :
    InFields names (Check.within (.field name) outcome) := by
  cases outcome with
  | ok value => exact .ok value
  | error issues => exact .error (.map_within member fun none => reason (none ▸ rfl))

theorem optional
    {entries : Document.Entries}
    {name : String}
    {default : α}
    {check : Document → Check α}
    (member : name.toList ∈ names)
    (reason : ∀ document, check document ≠ .error []) :
    InFields names (Check.optional entries name default check) := by
  apply within member
  cases Document.get? entries name.toList with
  | none => exact nofun
  | some document => exact reason document

end InFields

/-! ## Scalars -/

theorem reject_ne_error_nil {complaint : Complaint} :
    (reject complaint : Check α) ≠ .error [] := by
  simp [reject]

theorem integerOfDouble_ne_error_nil {double : Double} :
    integerOfDouble double ≠ .error [] := by
  unfold integerOfDouble
  repeat' split
  all_goals first | exact reject_ne_error_nil | exact nofun

theorem integerOfText_ne_error_nil {text : Text} :
    integerOfText text ≠ .error [] := by
  unfold integerOfText
  dsimp only
  repeat' split
  all_goals first | exact reject_ne_error_nil | exact nofun

theorem integer_ne_error_nil (document : Document) :
    integer document ≠ .error [] := by
  cases document with
  | integer value | boolean value => exact nofun
  | real value => exact integerOfDouble_ne_error_nil
  | text value => exact integerOfText_ne_error_nil
  | _ => exact reject_ne_error_nil

theorem real_ne_error_nil (document : Document) :
    real document ≠ .error [] := by
  unfold real
  repeat' split
  all_goals first | exact reject_ne_error_nil | exact nofun

theorem text_ne_error_nil (document : Document) :
    text document ≠ .error [] := by
  cases document with
  | text value => exact nofun
  | _ => exact reject_ne_error_nil

theorem atLeast_ne_error_nil
    {bound : Int}
    {check : Document → Check Int}
    (reason : ∀ document, check document ≠ .error [])
    (document : Document) :
    atLeast bound check document ≠ .error [] := by
  have inner := reason document
  unfold atLeast
  cases checked : check document with
  | error issues => simpa [checked] using inner
  | ok number =>
      dsimp only
      split
      · exact reject_ne_error_nil
      · exact nofun

end Check
end LabelPress
