import Mathlib.Init

/-!
# Outcomes

Computations that may fail, taken apart into the outcomes of their steps.
-/

namespace LabelPress

variable {ε α β : Type}

/-- A computation gives a result. -/
def Succeeds (outcome : Except ε α) : Prop :=
  ∃ value, outcome = .ok value

theorem bind_eq_ok
    {first : Except ε α}
    {next : α → Except ε β}
    {result : β} :
    (first >>= next) = .ok result ↔ ∃ value, first = .ok value ∧ next value = .ok result := by
  cases first with
  | error fault => simp [bind, Except.bind]
  | ok value => simp [bind, Except.bind]

theorem bind_eq_error
    {first : Except ε α}
    {next : α → Except ε β}
    {fault : ε} :
    (first >>= next) = .error fault ↔
      first = .error fault ∨ ∃ value, first = .ok value ∧ next value = .error fault := by
  cases first with
  | error other => simp [bind, Except.bind]
  | ok value => simp [bind, Except.bind]

/-- A list of computations fails with the fault of one of them. -/
theorem exists_of_mapM_eq_error
    {run : α → Except ε β}
    {inputs : List α}
    {fault : ε}
    (failed : inputs.mapM run = .error fault) :
    ∃ input ∈ inputs, run input = .error fault := by
  induction inputs with
  | nil => cases failed
  | cons input others inductionHypothesis =>
      rw [List.mapM_cons, bind_eq_error] at failed
      rcases failed with here | ⟨_, -, later⟩
      · exact ⟨input, List.mem_cons_self, here⟩
      · rcases bind_eq_error.1 later with later | ⟨_, -, impossible⟩
        · obtain ⟨other, member, failed⟩ := inductionHypothesis later
          exact ⟨other, List.mem_cons_of_mem _ member, failed⟩
        · cases impossible

/-- The results of a list of computations are those of its parts. -/
theorem exists_of_mapM_eq_ok
    {run : α → Except ε β}
    {inputs : List α}
    {results : List β}
    (made : inputs.mapM run = .ok results) :
    ∀ result ∈ results, ∃ input ∈ inputs, run input = .ok result := by
  induction inputs generalizing results with
  | nil =>
      cases made
      exact nofun
  | cons input others inductionHypothesis =>
      rw [List.mapM_cons] at made
      obtain ⟨first, here, made⟩ := bind_eq_ok.1 made
      obtain ⟨rest, later, same⟩ := bind_eq_ok.1 made
      cases same
      intro result member
      rcases List.mem_cons.1 member with rfl | member
      · exact ⟨input, List.mem_cons_self, here⟩
      · obtain ⟨other, known, found⟩ := inductionHypothesis later result member
        exact ⟨other, List.mem_cons_of_mem input known, found⟩

theorem map_eq_ok
    {outcome : Except ε α}
    {change : α → β}
    {result : β} :
    outcome.map change = .ok result ↔ ∃ value, outcome = .ok value ∧ change value = result := by
  cases outcome with
  | error fault => simp [Except.map]
  | ok value => simp [Except.map]

@[simp] theorem mapError_ok
    {ε' : Type}
    (change : ε → ε')
    (value : α) :
    (.ok value : Except ε α).mapError change = .ok value := rfl

@[simp] theorem mapError_error
    {ε' : Type}
    (change : ε → ε')
    (fault : ε) :
    (.error fault : Except ε α).mapError change = .error (change fault) := rfl

theorem mapError_eq_ok
    {ε' : Type}
    {outcome : Except ε α}
    {change : ε → ε'}
    {result : α} :
    outcome.mapError change = .ok result ↔ outcome = .ok result := by
  cases outcome with
  | error fault => simp
  | ok value => simp

theorem mapError_eq_error
    {ε' : Type}
    {outcome : Except ε α}
    {change : ε → ε'}
    {fault : ε'} :
    outcome.mapError change = .error fault ↔
      ∃ inner, outcome = .error inner ∧ change inner = fault := by
  cases outcome with
  | error inner => simp
  | ok value => simp

namespace Succeeds

@[simp] theorem ok (value : α) :
    Succeeds (.ok value : Except ε α) :=
  ⟨value, rfl⟩

@[simp] theorem pure (value : α) :
    Succeeds (Pure.pure value : Except ε α) :=
  ⟨value, rfl⟩

@[simp] theorem not_error (fault : ε) :
    ¬ Succeeds (.error fault : Except ε α) := by
  rintro ⟨value, same⟩
  cases same

theorem bind_iff
    {first : Except ε α}
    {next : α → Except ε β} :
    Succeeds (first >>= next) ↔ ∃ value, first = .ok value ∧ Succeeds (next value) := by
  cases first with
  | error fault => simp [bind, Except.bind]
  | ok value => simp [bind, Except.bind]

/-- Whether a sequence succeeds, if its rest does not depend on the first result. -/
theorem bind_iff_and
    {first : Except ε α}
    {next : α → Except ε β}
    {rest : Prop}
    (same : ∀ value, Succeeds (next value) ↔ rest) :
    Succeeds (first >>= next) ↔ Succeeds first ∧ rest := by
  rw [bind_iff]
  constructor
  · rintro ⟨value, made, succeeds⟩
    exact ⟨⟨value, made⟩, (same value).1 succeeds⟩
  · rintro ⟨⟨value, made⟩, succeeds⟩
    exact ⟨value, made, (same value).2 succeeds⟩

/-- Using the result of a computation does not make it fail. -/
theorem bind_pure_iff
    {first : Except ε α}
    {change : α → β} :
    Succeeds (first >>= fun value => Pure.pure (change value)) ↔ Succeeds first := by
  rw [bind_iff_and fun value => iff_true_intro (Succeeds.pure (change value)), and_true]

@[simp] theorem map_iff
    {outcome : Except ε α}
    {change : α → β} :
    Succeeds (outcome.map change) ↔ Succeeds outcome := by
  cases outcome with
  | error fault => simp [Except.map]
  | ok value => simp [Except.map]

/-- A list of computations gives its results exactly if each of them does. -/
theorem mapM_iff
    {run : α → Except ε β}
    {inputs : List α} :
    Succeeds (inputs.mapM run) ↔ ∀ input ∈ inputs, Succeeds (run input) := by
  induction inputs with
  | nil => simp
  | cons input others inductionHypothesis =>
      rw [List.mapM_cons, List.forall_mem_cons]
      apply bind_iff_and
      intro value
      rw [bind_pure_iff, inductionHypothesis]

end Succeeds
end LabelPress
