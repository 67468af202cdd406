import LabelPress.Proofs.Template.Cuts

/-!
# Blanks inside the braces

What blanks between the braces of a span and its expression do.  Main statement: on one line
they do not count, but with a line feed among them the braces make no span.  Then the opening
and the blanks behind it are plain text, and what follows is a template of its own.

The closing behind the expression is the first one, so a span that is found anywhere in the
braces ends with it.  Spans do not leave their line, so none reaches it across a line feed.
-/

namespace LabelPress
namespace Template

section
variable {before body after : Text}

/-- Blanks on both sides leave a closing the first one. -/
theorem ClosesLast.spaced
    (closesLast : ClosesLast body)
    (blankBefore : Text.AllBlank before)
    (blankAfter : Text.AllBlank after) :
    ClosesLast (before ++ body ++ after) :=
  (closesLast.prepend (blankBefore.not_mem (by decide))).append
    (blankAfter.not_mem (by decide))

theorem IsBody.spaced
    (isBody : IsBody body)
    (blankBefore : Text.AllBlank before)
    (blankAfter : Text.AllBlank after)
    (oneLine : '\n' ∉ before ++ after) :
    IsBody (before ++ body ++ after) := by
  have closesLast := isBody.closesLast.spaced blankBefore blankAfter
  have nonempty := List.append_ne_nil_of_right_ne_nil before isBody.nonempty
  refine ⟨List.append_ne_nil_of_left_ne_nil nonempty after, ?_, closesLast.unclosed,
    closesLast.bare⟩
  have bodyLine := isBody.oneLine
  simp only [List.mem_append, not_or] at oneLine ⊢
  exact ⟨⟨oneLine.1, bodyLine⟩, oneLine.2⟩

end

/-! ## Texts with one closing at their end -/

section
variable {front left after body : Text}

/-- A text is parted only at the first closing if that ends it. -/
theorem ClosesLast.eq_of_append_closing
    (closesLast : ClosesLast front)
    (same : front ++ closing = left ++ closing ++ after) :
    front = left ∧ after = [] := by
  rw [List.append_assoc] at same
  rcases List.append_eq_append_iff.1 same with ⟨more, rfl, behind⟩ | ⟨more, rfl, behind⟩
  · have lengths := congrArg List.length behind
    simp only [List.length_append] at lengths
    have noMore : more = [] := List.length_eq_zero_iff.1 (by omega)
    have nothing : after = [] := List.length_eq_zero_iff.1 (by omega)
    exact ⟨by rw [noMore, List.append_nil], nothing⟩
  · rcases more with _ | ⟨first, _ | ⟨second, others⟩⟩
    · exact ⟨List.append_nil left, by simpa using behind⟩
    · obtain ⟨rfl, -⟩ := List.cons.inj behind
      exact absurd (by simp) closesLast.bare
    · obtain ⟨rfl, further⟩ := List.cons.inj behind
      obtain ⟨rfl, -⟩ := List.cons.inj further
      exact absurd ⟨left, others, by simp [closing]⟩ closesLast.unclosed

theorem newline_not_mem_of_spanBody?
    {text : Text}
    (found : spanBody? text = some (body, after)) :
    '\n' ∉ body := by
  induction text generalizing body with
  | nil => cases found
  | cons c rest inductionHypothesis =>
      rw [spanBody?] at found
      split at found
      · cases found
      · rename_i stays
        split at found
        · simp only [Option.some.injEq, Prod.mk.injEq] at found
          rw [← found.1, List.mem_singleton]
          exact fun same => stays same.symm
        · obtain ⟨inner, innerFound, same⟩ := Option.map_eq_some_iff.1 found
          simp only [Prod.mk.injEq] at same
          obtain ⟨rfl, rfl⟩ := same
          rw [List.mem_cons, not_or]
          exact ⟨fun same => stays same.symm, inductionHypothesis innerFound⟩

/-- A span that is found in front of the only closing goes up to it, on one line. -/
theorem ClosesLast.of_leadingSpan?
    (closesLast : ClosesLast front)
    (found : leadingSpan? (front ++ closing) = some (body, after)) :
    front = opening ++ body ∧ after = [] ∧ '\n' ∉ body := by
  obtain ⟨parted, -⟩ := leadingSpan?_eq_some found
  obtain ⟨same, nothing⟩ := closesLast.eq_of_append_closing parted
  refine ⟨same, nothing, ?_⟩
  rw [leadingSpan?] at found
  split at found
  · exact newline_not_mem_of_spanBody? found
  · cases found

/-- Nothing stands behind the spans of such a text, so it is not cut. -/
theorem ClosesLast.alternatives_eq
    (closesLast : ClosesLast front) :
    alternatives (front ++ closing) = [front ++ closing] := by
  induction front with
  | nil =>
      have unspanned : Unspanned closing [] := by decide
      simpa using unspanned.alternatives_append alternatives_nil
  | cons c front inductionHypothesis =>
      cases found : leadingSpan? (c :: front ++ closing) with
      | none =>
          rw [List.cons_append] at found
          rw [List.cons_append, alternatives_cons found, inductionHypothesis closesLast.tail]
          rfl
      | some site =>
          obtain ⟨body, after⟩ := site
          obtain ⟨parted, isFound⟩ := leadingSpan?_eq_some found
          obtain ⟨-, rfl, -⟩ := closesLast.of_leadingSpan? found
          rw [parted, alternatives_span isFound rfl, alternatives_nil]
          rfl

theorem unspanned_of_not_mem
    (unopened : openBrace ∉ front)
    (rest : Text) :
    Unspanned front rest := by
  induction front with
  | nil => trivial
  | cons c front inductionHypothesis =>
      rw [List.mem_cons, not_or] at unopened
      exact ⟨leadingSpan?_cons_eq_none (Ne.symm unopened.1) _, inductionHypothesis unopened.2⟩

end

/-! ## Expressions between blanks -/

section
variable {before body after : Text}

/-- An expression that starts with no brace does not complete an opening behind blanks. -/
theorem not_opening_prefix_spaced
    (nonempty : body ≠ [])
    (unopened : body.head? ≠ some openBrace)
    (blankBefore : Text.AllBlank before)
    (rest : Text) :
    ¬ opening <+: openBrace :: (before ++ body ++ rest) := by
  intro begins
  have next := (List.cons_prefix_cons.1 begins).2
  cases before with
  | nil =>
      cases body with
      | nil => exact nonempty rfl
      | cons c body =>
          obtain ⟨rfl, -⟩ := List.cons_prefix_cons.1 next
          exact unopened rfl
  | cons c before =>
      obtain ⟨rfl, -⟩ := List.cons_prefix_cons.1 next
      exact blankBefore.not_mem (by decide) List.mem_cons_self

/-- With a line feed inside the braces no span starts at them or at the blanks behind them. -/
theorem unspanned_of_newline
    (isBody : IsBody body)
    (unopened : body.head? ≠ some openBrace)
    (blankBefore : Text.AllBlank before)
    (blankAfter : Text.AllBlank after)
    (broken : '\n' ∈ before ++ after) :
    Unspanned (opening ++ before) (body ++ after ++ closing) := by
  have inside : '\n' ∈ before ++ body ++ after := by
    simp only [List.mem_append] at broken ⊢
    exact broken.imp_left Or.inl
  have closesLast := isBody.closesLast.spaced blankBefore blankAfter
  have atOpening : leadingSpan? (opening ++ (before ++ body ++ after) ++ closing) = none := by
    cases found : leadingSpan? (opening ++ (before ++ body ++ after) ++ closing) with
    | none => rfl
    | some site =>
        obtain ⟨same, -, oneLine⟩ := (closesLast.prepend (by decide)).of_leadingSpan? found
        rw [List.append_cancel_left same] at inside
        exact absurd inside oneLine
  have atBrace : leadingSpan? (openBrace :: (before ++ body ++ (after ++ closing))) = none :=
    leadingSpan?_eq_none
      (not_opening_prefix_spaced isBody.nonempty unopened blankBefore (after ++ closing))
  have blankFree : openBrace ∉ before := blankBefore.not_mem (by decide)
  refine ⟨?_, ?_, unspanned_of_not_mem blankFree _⟩
  · simpa [opening] using atOpening
  · simpa using atBrace

/-- With a line feed among the blanks only what follows the first blanks is evaluated. -/
theorem evaluate_span_of_newline
    (isBody : IsBody body)
    (unopened : body.head? ≠ some openBrace)
    (blankBefore : Text.AllBlank before)
    (blankAfter : Text.AllBlank after)
    (broken : '\n' ∈ before ++ after)
    (row : Row)
    (context : Context) :
    evaluate row context (span (before ++ body ++ after)) =
      opening ++ before ++ evaluate row context (body ++ after ++ closing) := by
  have unspanned := unspanned_of_newline isBody unopened blankBefore blankAfter broken
  have single :=
    (isBody.closesLast.append (blankAfter.not_mem (by decide))).alternatives_eq
  have whole :
      span (before ++ body ++ after) = opening ++ before ++ (body ++ after ++ closing) := by
    simp [span]
  rw [whole, evaluate_of_single (unspanned.alternatives_append single),
    unspanned.substitute_append, evaluate_of_single single]

/-- Without another opening the rest of such braces is plain text as well. -/
theorem unspanned_of_unopened
    (unopened : ¬ opening <:+: body)
    (blankAfter : Text.AllBlank after) :
    Unspanned (body ++ after ++ closing) [] := by
  have blankFree : openBrace ∉ after := blankAfter.not_mem (by decide)
  have free : openBrace ∉ after ++ closing := by
    rw [List.mem_append, not_or]
    exact ⟨blankFree, by decide⟩
  apply IsGap.unspanned
  refine ⟨fun found => unopened ?_, Or.inr rfl⟩
  rw [List.append_assoc] at found
  exact pair_isInfix_left free found

/--
Blanks around an expression do not count as long as no line feed is among them.  With one
the braces are no span: they and the blanks behind them are kept, and what stands there is
evaluated as a template of its own, which has nothing to replace unless it opens a span again.
-/
theorem evaluate_padded_span
    (isBody : IsBody body)
    (unopened : body.head? ≠ some openBrace)
    (blankBefore : Text.AllBlank before)
    (blankAfter : Text.AllBlank after)
    (row : Row)
    (context : Context) :
    ('\n' ∉ before ++ after →
        evaluate row context (span (before ++ body ++ after)) =
          evaluate row context (span body)) ∧
      ('\n' ∈ before ++ after →
        evaluate row context (span (before ++ body ++ after)) =
            opening ++ before ++ evaluate row context (body ++ after ++ closing) ∧
          (¬ opening <:+: body →
            evaluate row context (span (before ++ body ++ after)) =
              span (before ++ body ++ after))) := by
  constructor
  · intro oneLine
    have spaced : Text.Spaced body (before ++ body ++ after) :=
      ⟨before, after, blankBefore, blankAfter, rfl⟩
    rw [evaluate_span (isBody.spaced blankBefore blankAfter oneLine), evaluate_span isBody,
      spaced.trim_eq]
  · intro broken
    have kept :=
      evaluate_span_of_newline isBody unopened blankBefore blankAfter broken row context
    refine ⟨kept, fun single => ?_⟩
    rw [kept, evaluate_of_unspanned (unspanned_of_unopened single blankAfter)]
    simp [span]

/-- A line separator, a carriage return and a tab are trimmed, a line feed leaves the braces. -/
theorem evaluate_padded_span_breaks :
    let row : Row := [(.name "a".toList, .text "v".toList)]
    let context : Context := ⟨0, 1, .midnight ⟨2026, 3, 15, by decide, by decide, by decide⟩⟩
    IsBody "a".toList ∧
      evaluate row context (span "\u2028\ta\r".toList) = evaluate row context (span "a".toList) ∧
      evaluate row context (span " a\n".toList) = "\x7b\x7b a\n\x7d\x7d".toList := by
  intro row context
  have isBody : IsBody "a".toList := by decide
  have separator : Text.AllBlank "\u2028\t".toList := by decide
  have carriageReturn : Text.AllBlank "\r".toList := by decide
  have space : Text.AllBlank " ".toList := by decide
  have lineFeed : Text.AllBlank "\n".toList := by decide
  refine ⟨isBody, ?_, ?_⟩
  · exact (evaluate_padded_span isBody (by decide) separator carriageReturn row context).1
      (by decide)
  · exact ((evaluate_padded_span isBody (by decide) space lineFeed row context).2
      (by decide)).2 (by decide)

/-- A line feed inside the braces keeps a column from being looked up. -/
theorem evaluate_span_line_feed :
    let row : Row := [(.name "a".toList, .text "v".toList)]
    let context : Context := ⟨0, 1, .midnight ⟨2026, 3, 15, by decide, by decide, by decide⟩⟩
    Text.AllBlank "\n".toList ∧
      evaluate row context (span "a".toList) = "v".toList ∧
      evaluate row context (span ("\n".toList ++ "a".toList)) ≠ "v".toList := by
  intro row context
  refine ⟨by decide, ?_, ?_⟩
  · rw [evaluate_span (by decide), evalText_of_noBars (by decide) (by decide)]
    decide
  · rw [evaluate_of_unspanned (by decide)]
    decide

end
end Template
end LabelPress
