import LabelPress.Options

/-!
# Checks that pass

A combination of checks has a value exactly if each of its parts has one.  Two combinations
whose parts have the same issues or related values have the same issues or related values
themselves.
-/

namespace LabelPress
namespace Check

variable {α β : Type}

theorem andThen_eq_ok
    {function : Check (α → β)}
    {argument : Check α}
    {result : β} :
    andThen function argument = .ok result ↔
      ∃ f value, function = .ok f ∧ argument = .ok value ∧ f value = result := by
  unfold andThen both
  cases function <;> cases argument <;> simp

theorem within_eq_ok
    {step : Step}
    {outcome : Check α}
    {value : α} :
    within step outcome = .ok value ↔ outcome = .ok value := by
  cases outcome <;> simp [within]

theorem accept_eq_ok {value result : α} :
    accept value = .ok result ↔ value = result := by
  simp [accept]

theorem all_eq_ok
    {checks : List (Check α)}
    {results : List α} :
    all checks = .ok results ↔ checks = results.map .ok := by
  induction checks generalizing results with
  | nil => cases results <;> simp [all]
  | cons first others inductionHypothesis =>
      rw [all]
      cases results with
      | nil => cases first <;> cases all others <;> simp [both]
      | cons result results =>
          rw [List.map_cons, List.cons.injEq, ← inductionHypothesis]
          cases first <;> cases all others <;> simp [both]

/-! ## Checks of two values -/

/-- Two outcomes with the same issues, or with values that are related. -/
inductive Alike
    (related : α → β → Prop) : Check α → Check β → Prop where
  /-- Both have values. -/
  | ok
      {value : α}
      {other : β}
      (same : related value other) : Alike related (.ok value) (.ok other)
  /-- Both have the same issues. -/
  | error (issues : List Issue) : Alike related (.error issues) (.error issues)

theorem Alike.refl
    {related : α → α → Prop}
    (reflexive : ∀ value, related value value)
    (outcome : Check α) :
    Alike related outcome outcome := by
  cases outcome with
  | ok value => exact .ok (reflexive value)
  | error issues => exact .error issues

theorem Alike.imp
    {related weaker : α → β → Prop}
    {outcome : Check α}
    {otherOutcome : Check β}
    (alike : Alike related outcome otherOutcome)
    (weaken : ∀ value other, related value other → weaker value other) :
    Alike weaker outcome otherOutcome := by
  cases alike with
  | ok same => exact .ok (weaken _ _ same)
  | error issues => exact .error issues

/-- Functions that keep values related give related values for related arguments. -/
theorem Alike.andThen
    {γ δ : Type}
    {arguments : α → β → Prop}
    {results : γ → δ → Prop}
    {function : Check (α → γ)}
    {otherFunction : Check (β → δ)}
    {argument : Check α}
    {otherArgument : Check β}
    (functions :
      Alike (fun f g => ∀ value other, arguments value other → results (f value) (g other))
        function otherFunction)
    (given : Alike arguments argument otherArgument) :
    Alike results (Check.andThen function argument)
      (Check.andThen otherFunction otherArgument) := by
  cases functions with
  | ok keeps =>
      cases given with
      | ok same => exact .ok (keeps _ _ same)
      | error issues => exact .error issues
  | error issues =>
      cases given with
      | ok same => exact .error issues
      | error others => exact .error (issues ++ others)

/-- Functions that keep values related are given one argument. -/
theorem Alike.andThen_same
    {γ δ : Type}
    {results : γ → δ → Prop}
    {function : Check (α → γ)}
    {otherFunction : Check (α → δ)}
    (functions :
      Alike (fun f g => ∀ value, results (f value) (g value)) function otherFunction)
    (argument : Check α) :
    Alike results (Check.andThen function argument) (Check.andThen otherFunction argument) := by
  have given : Alike Eq argument argument := .refl (fun _ => rfl) argument
  apply Alike.andThen _ given
  cases functions with
  | ok keeps => exact .ok fun value _ same => same ▸ keeps value
  | error issues => exact .error issues

end Check

theorem Options.bounded_eq_ok
    {name : String}
    {bound value : Int}
    {n : Nat} :
    bounded name bound value = .ok n ↔ bound ≤ value ∧ value.toNat = n := by
  unfold bounded
  rw [Check.within_eq_ok]
  split
  · rename_i below
    exact iff_of_false (by simp [Check.reject]) fun inside => absurd inside.1 (by omega)
  · rename_i inside
    simp [Int.not_lt.1 inside]

end LabelPress
