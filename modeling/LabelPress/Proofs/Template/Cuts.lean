import LabelPress.Proofs.Template.Spans
import LabelPress.Proofs.Text.Search

/-!
# Templates cut at bars

A template is cut behind every span that bars follow.  Main statement: the cut loses
nothing and can be repeated.  The parts joined with bars are the template, a part is not
cut again, and the spans of the parts are the spans of the template.

Each part is scanned without the text that stood behind it.  That text does not matter: a
span closes at the first place where it can, and bars follow it within the same part or
not at all.
-/

namespace LabelPress
namespace Template

/-- The body of a segment that is a span. -/
def Segment.body? : Segment → Option Text
  | .plain _ => none
  | .span body => some body

/-- The bodies of the spans of a template, from left to right. -/
def spans (text : Text) : List Text :=
  (segments text).filterMap Segment.body?

/-- The texts behind the spans of a template, from left to right. -/
def sequels (text : Text) : List Text :=
  match text with
  | [] => []
  | c :: rest =>
      match found : leadingSpan? (c :: rest) with
      | some (_, after) =>
          have _shorter := length_leadingSpan?_lt found
          after :: sequels after
      | none => sequels rest
termination_by text.length
decreasing_by all_goals grind

/-! ## Spans without the text behind them -/

/-- A body in front of its closing is found with any other text behind that. -/
theorem spanBody?_eq_some
    {text body after : Text}
    (found : spanBody? text = some (body, after)) :
    text = body ++ closing ++ after ∧
      ∀ other, spanBody? (body ++ closing ++ other) = some (body, other) := by
  induction text generalizing body with
  | nil => cases found
  | cons c rest inductionHypothesis =>
      rw [spanBody?] at found
      split at found
      · cases found
      · rename_i stays
        split at found
        · rename_i closes
          obtain ⟨behind, rfl⟩ := List.isPrefixOf_iff_prefix.1 closes
          simp only [Option.some.injEq, Prod.mk.injEq] at found
          obtain ⟨rfl, rfl⟩ := found
          refine ⟨rfl, ?_⟩
          intro other
          simp [spanBody?, stays, closing]
        · rename_i goesOn
          obtain ⟨⟨inner, behind⟩, innerFound, same⟩ := Option.map_eq_some_iff.1 found
          simp only [Prod.mk.injEq] at same
          obtain ⟨rfl, rfl⟩ := same
          obtain ⟨parted, again⟩ := inductionHypothesis innerFound
          refine ⟨by rw [parted]; rfl, ?_⟩
          intro other
          have still : ¬ closing.isPrefixOf (inner ++ closing ++ other) := by
            rw [List.isPrefixOf_iff_prefix] at goesOn ⊢
            intro begins
            have inside : closing <+: inner ++ closing :=
              List.prefix_of_prefix_length_le begins (List.prefix_append _ other) (by simp)
            exact goesOn (parted ▸ inside.trans (List.prefix_append _ behind))
          rw [List.cons_append, List.cons_append, spanBody?, if_neg stays, if_neg still, again]
          rfl

theorem leadingSpan?_eq_some
    {text body after : Text}
    (found : leadingSpan? text = some (body, after)) :
    text = span body ++ after ∧ IsFound body := by
  rw [leadingSpan?] at found
  split at found
  · rename_i opens
    obtain ⟨inside, rfl⟩ := List.isPrefixOf_iff_prefix.1 opens
    have inner : spanBody? inside = some (body, after) := found
    obtain ⟨rfl, again⟩ := spanBody?_eq_some inner
    exact ⟨by simp [span], isFound_of_spanBody? again⟩
  · cases found

/-- A text that starts with no span has no beginning that starts with one. -/
theorem leadingSpan?_eq_none_of_isPrefix
    {part text : Text}
    (begins : part <+: text)
    (absent : leadingSpan? text = none) :
    leadingSpan? part = none := by
  cases found : leadingSpan? part with
  | none => rfl
  | some site =>
      obtain ⟨behind, rfl⟩ := begins
      obtain ⟨rfl, isFound⟩ := leadingSpan?_eq_some found
      rw [List.append_assoc, isFound] at absent
      cases absent

theorem leadingSpan?_cons_eq_none
    {c : Char}
    (different : c ≠ openBrace)
    (rest : Text) :
    leadingSpan? (c :: rest) = none := by
  apply leadingSpan?_eq_none
  intro begins
  exact different (List.cons_prefix_cons.1 begins).1.symm

/-! ## Bars behind a span -/

theorem leadingBar?_append
    {blanks : Text}
    (blank : Text.AllBlank blanks)
    (after : Text) :
    leadingBar? (blanks ++ Expr.alternativeToken ++ after) = some (blanks, after) := by
  have stops : Text.isBlank '|' = false := by decide
  have before : (blanks ++ Expr.alternativeToken ++ after).takeWhile Text.isBlank = blanks := by
    rw [List.append_assoc, List.takeWhile_append_of_pos blank, Expr.alternativeToken,
      List.cons_append, List.takeWhile_cons_of_neg (by simp [stops]), List.append_nil]
  have behind :
      (blanks ++ Expr.alternativeToken ++ after).dropWhile Text.isBlank =
        Expr.alternativeToken ++ after := by
    rw [List.append_assoc, List.dropWhile_append_of_pos blank, Expr.alternativeToken,
      List.cons_append, List.dropWhile_cons_of_neg (by simp [stops])]
  rw [leadingBar?, before, behind, if_pos (by simp)]
  rfl

theorem leadingBar?_eq_some
    {text blanks after : Text}
    (found : leadingBar? text = some (blanks, after)) :
    text = blanks ++ Expr.alternativeToken ++ after ∧ Text.AllBlank blanks := by
  have whole : text.takeWhile Text.isBlank ++ text.dropWhile Text.isBlank = text :=
    List.takeWhile_append_dropWhile
  rw [leadingBar?] at found
  split at found
  · rename_i barred
    obtain ⟨behind, parted⟩ := List.isPrefixOf_iff_prefix.1 barred
    simp only [← parted, Option.some.injEq, Prod.mk.injEq] at found
    obtain ⟨rfl, rfl⟩ := found
    refine ⟨?_, fun c member => List.mem_takeWhile_imp member⟩
    rw [← parted] at whole
    rw [List.append_assoc]
    exact whole.symm
  · cases found

/-- A text that starts with no bars has no beginning that starts with them. -/
theorem leadingBar?_eq_none_of_isPrefix
    {part text : Text}
    (begins : part <+: text)
    (absent : leadingBar? text = none) :
    leadingBar? part = none := by
  cases found : leadingBar? part with
  | none => rfl
  | some cut =>
      obtain ⟨behind, rfl⟩ := begins
      obtain ⟨rfl, blank⟩ := leadingBar?_eq_some found
      rw [List.append_assoc, leadingBar?_append blank] at absent
      cases absent

theorem leadingBar?_of_allBlank
    {blanks : Text}
    (blank : Text.AllBlank blanks) :
    leadingBar? blanks = none := by
  apply leadingBar?_eq_none
  rw [Text.trimLeft_of_allBlank blank]
  simp [Expr.alternativeToken]

/-! ## The cut as a relation -/

/-- A template and its parts, by what the template starts with. -/
inductive CutInto : Text → List Text → Prop where
  | nil : CutInto [] [[]]
  /-- A character that starts no span joins the part behind it. -/
  | plain
      {c : Char}
      {rest first : Text}
      {others : List Text}
      (absent : leadingSpan? (c :: rest) = none)
      (behind : CutInto rest (first :: others)) :
      CutInto (c :: rest) ((c :: first) :: others)
  /-- A span that no bars follow joins the part behind it. -/
  | joined
      {body after first : Text}
      {others : List Text}
      (isFound : IsFound body)
      (unbarred : leadingBar? after = none)
      (behind : CutInto after (first :: others)) :
      CutInto (span body ++ after) ((span body ++ first) :: others)
  /-- A span that bars follow ends a part, with the blanks before the bars. -/
  | barred
      {body blanks next : Text}
      {parts : List Text}
      (isFound : IsFound body)
      (blank : Text.AllBlank blanks)
      (behind : CutInto next parts) :
      CutInto (span body ++ (blanks ++ Expr.alternativeToken ++ next))
        ((span body ++ blanks) :: parts)

theorem CutInto.exists_cons
    {text : Text}
    {parts : List Text}
    (cut : CutInto text parts) :
    ∃ first others, parts = first :: others := by
  cases cut with
  | nil | plain | joined | barred => exact ⟨_, _, rfl⟩

theorem alternatives_barred
    {body blanks : Text}
    (isFound : IsFound body)
    (blank : Text.AllBlank blanks)
    (next : Text) :
    alternatives (span body ++ (blanks ++ Expr.alternativeToken ++ next)) =
      (span body ++ blanks) :: alternatives next := by
  have found := isFound (blanks ++ Expr.alternativeToken ++ next)
  have barred := leadingBar?_append blank next
  generalize behind : blanks ++ Expr.alternativeToken ++ next = after at found barred ⊢
  obtain ⟨c, others, shape⟩ : ∃ c others, span body ++ after = c :: others := ⟨_, _, rfl⟩
  rw [shape] at found ⊢
  rw [alternatives]
  split
  · rename_i body' after' found'
    obtain ⟨rfl, rfl⟩ : body' = body ∧ after' = after := by simp_all
    dsimp only
    split
    · rename_i blanks' next' barred'
      obtain ⟨rfl, rfl⟩ : blanks' = blanks ∧ next' = next := by simp_all
      rfl
    · simp_all
  · simp_all

/-- Every template is cut into its alternatives. -/
theorem cutInto_alternatives (text : Text) :
    CutInto text (alternatives text) := by
  induction text using alternatives.induct with
  | case1 =>
      rw [alternatives]
      exact .nil
  | case2 c rest body after found _ blanks next barred _ behind =>
      obtain ⟨shape, isFound⟩ := leadingSpan?_eq_some found
      obtain ⟨rfl, blank⟩ := leadingBar?_eq_some barred
      rw [shape, alternatives_barred isFound blank]
      exact .barred isFound blank behind
  | case3 c rest body after found _ unbarred behind =>
      obtain ⟨shape, isFound⟩ := leadingSpan?_eq_some found
      obtain ⟨first, others, parts⟩ := behind.exists_cons
      rw [shape, alternatives_span isFound unbarred, parts]
      exact .joined isFound unbarred (parts ▸ behind)
  | case4 c rest absent behind =>
      obtain ⟨first, others, parts⟩ := behind.exists_cons
      rw [alternatives_cons absent, parts]
      exact .plain absent (parts ▸ behind)

namespace CutInto

variable {text : Text} {parts : List Text}

/-- The alternatives of a template are the only parts that it is cut into. -/
theorem alternatives_eq
    (cut : CutInto text parts) :
    alternatives text = parts := by
  induction cut with
  | nil => rw [alternatives]
  | plain absent _ inductionHypothesis =>
      rw [alternatives_cons absent, inductionHypothesis]
      rfl
  | joined isFound unbarred _ inductionHypothesis =>
      rw [alternatives_span isFound unbarred, inductionHypothesis]
      rfl
  | barred isFound blank _ inductionHypothesis =>
      rw [alternatives_barred isFound blank, inductionHypothesis]

/-- Bars between the parts give the template back. -/
theorem join_eq
    (cut : CutInto text parts) :
    Text.join Expr.alternativeToken parts = text := by
  induction cut with
  | nil => rfl
  | @plain c _ first others _ _ inductionHypothesis =>
      have behind := Text.join_append_first Expr.alternativeToken [c] first others
      rw [inductionHypothesis] at behind
      exact behind
  | joined _ _ _ inductionHypothesis =>
      rw [Text.join_append_first, inductionHypothesis]
  | barred _ _ behind inductionHypothesis =>
      obtain ⟨first, others, rfl⟩ := behind.exists_cons
      rw [Text.join, inductionHypothesis]
      simp only [List.append_assoc]

theorem isPrefix
    {first : Text}
    {others : List Text}
    (cut : CutInto text (first :: others)) :
    first <+: text := by
  have begins := Text.isPrefix_join Expr.alternativeToken first others
  rwa [cut.join_eq] at begins

/-- A character that starts no span in a template starts none in its part. -/
theorem leadingSpan?_cons
    {c : Char}
    {first : Text}
    {others : List Text}
    (cut : CutInto text (first :: others))
    (absent : leadingSpan? (c :: text) = none) :
    leadingSpan? (c :: first) = none :=
  leadingSpan?_eq_none_of_isPrefix ((List.prefix_cons_inj c).2 cut.isPrefix) absent

/-- A text in which no span opens is its only part. -/
theorem of_not_mem
    (unopened : openBrace ∉ text) :
    CutInto text [text] := by
  induction text with
  | nil => exact .nil
  | cons c rest inductionHypothesis =>
      rw [List.mem_cons, not_or] at unopened
      have absent := leadingSpan?_cons_eq_none (Ne.symm unopened.1) rest
      exact .plain absent (inductionHypothesis unopened.2)

/-- A part is its own only part: nothing in it was closed or barred by what stood behind. -/
theorem again
    (cut : CutInto text parts) :
    ∀ part ∈ parts, CutInto part [part] := by
  induction cut with
  | nil =>
      rw [List.forall_mem_singleton]
      exact .nil
  | plain absent behind inductionHypothesis =>
      rw [List.forall_mem_cons] at inductionHypothesis ⊢
      have alone := behind.leadingSpan?_cons absent
      exact ⟨.plain alone inductionHypothesis.1, inductionHypothesis.2⟩
  | joined isFound unbarred behind inductionHypothesis =>
      rw [List.forall_mem_cons] at inductionHypothesis ⊢
      have alone := leadingBar?_eq_none_of_isPrefix behind.isPrefix unbarred
      exact ⟨.joined isFound alone inductionHypothesis.1, inductionHypothesis.2⟩
  | @barred body blanks _ _ isFound blank _ inductionHypothesis =>
      have unopened : openBrace ∉ blanks := fun member => absurd (blank _ member) (by decide)
      have alone := leadingBar?_of_allBlank blank
      rw [List.forall_mem_cons]
      exact ⟨.joined isFound alone (of_not_mem unopened), inductionHypothesis⟩

end CutInto

/-! ## The spans of the parts -/

theorem spans_nil : spans [] = [] := by
  rw [spans, segments]
  rfl

theorem spans_cons
    {c : Char}
    {rest : Text}
    (absent : leadingSpan? (c :: rest) = none) :
    spans (c :: rest) = spans rest := by
  rw [spans, segments_cons absent]
  rfl

theorem spans_span
    {body : Text}
    (isFound : IsFound body)
    (rest : Text) :
    spans (span body ++ rest) = body :: spans rest := by
  rw [spans, segments_span isFound]
  rfl

theorem sequels_cons
    {c : Char}
    {rest : Text}
    (absent : leadingSpan? (c :: rest) = none) :
    sequels (c :: rest) = sequels rest := by
  rw [sequels]
  split
  · simp_all
  · rfl

theorem sequels_span
    {body : Text}
    (isFound : IsFound body)
    (rest : Text) :
    sequels (span body ++ rest) = rest :: sequels rest := by
  have found := isFound rest
  obtain ⟨c, others, shape⟩ : ∃ c others, span body ++ rest = c :: others := ⟨_, _, rfl⟩
  rw [shape] at found ⊢
  rw [sequels]
  split <;> simp_all

/-- Text in which no span opens adds nothing to what is found behind it. -/
theorem spans_append
    {text : Text}
    (unopened : openBrace ∉ text)
    (rest : Text) :
    spans (text ++ rest) = spans rest := by
  induction text with
  | nil => rfl
  | cons c behind inductionHypothesis =>
      rw [List.mem_cons, not_or] at unopened
      rw [List.cons_append, spans_cons (leadingSpan?_cons_eq_none (Ne.symm unopened.1) _),
        inductionHypothesis unopened.2]

theorem sequels_append
    {text : Text}
    (unopened : openBrace ∉ text)
    (rest : Text) :
    sequels (text ++ rest) = sequels rest := by
  induction text with
  | nil => rfl
  | cons c behind inductionHypothesis =>
      rw [List.mem_cons, not_or] at unopened
      rw [List.cons_append, sequels_cons (leadingSpan?_cons_eq_none (Ne.symm unopened.1) _),
        inductionHypothesis unopened.2]

/-- Between a span and the text behind its bars no span opens. -/
theorem openBrace_not_mem_barred
    {blanks : Text}
    (blank : Text.AllBlank blanks) :
    openBrace ∉ blanks ++ Expr.alternativeToken := by
  rw [List.mem_append, not_or]
  exact ⟨fun member => absurd (blank _ member) (by decide), by decide⟩

namespace CutInto

variable {text : Text} {parts : List Text}

/-- The spans of the parts are those of the template. -/
theorem flatMap_spans
    (cut : CutInto text parts) :
    parts.flatMap spans = spans text := by
  induction cut with
  | nil => rw [List.flatMap_singleton]
  | plain absent behind inductionHypothesis =>
      rw [spans_cons absent, ← inductionHypothesis, List.flatMap_cons, List.flatMap_cons,
        spans_cons (behind.leadingSpan?_cons absent)]
  | joined isFound _ _ inductionHypothesis =>
      rw [spans_span isFound, ← inductionHypothesis, List.flatMap_cons, List.flatMap_cons,
        spans_span isFound, List.cons_append]
  | @barred body blanks _ _ isFound blank _ inductionHypothesis =>
      have none : spans blanks = [] := by
        have nothing := spans_append (fun member => absurd (blank _ member) (by decide)) []
        rwa [List.append_nil, spans_nil] at nothing
      rw [spans_span isFound, spans_append (openBrace_not_mem_barred blank),
        ← inductionHypothesis, List.flatMap_cons, spans_span isFound, none]
      rfl

/-- Each span that bars follow makes one more part. -/
theorem length_eq
    (cut : CutInto text parts) :
    parts.length = (sequels text).countP (fun behind => (leadingBar? behind).isSome) + 1 := by
  induction cut with
  | nil =>
      rw [sequels]
      rfl
  | plain absent _ inductionHypothesis =>
      rw [sequels_cons absent, ← inductionHypothesis]
      rfl
  | joined isFound unbarred _ inductionHypothesis =>
      rw [sequels_span isFound, List.countP_cons_of_neg (by simp [unbarred]),
        ← inductionHypothesis]
      rfl
  | barred isFound blank _ inductionHypothesis =>
      rw [sequels_span isFound,
        List.countP_cons_of_pos (by rw [leadingBar?_append blank]; rfl),
        sequels_append (openBrace_not_mem_barred blank), List.length_cons, inductionHypothesis]

end CutInto

/--
A template is cut without loss.  Its parts with bars between them are the template, no part
is cut again, and the spans found in the parts are those found in the template.  It is cut
once for every span that bars follow.
-/
theorem alternatives_lossless (template : Text) :
    Text.join Expr.alternativeToken (alternatives template) = template ∧
      (∀ part ∈ alternatives template, alternatives part = [part]) ∧
      (alternatives template).flatMap spans = spans template ∧
      (alternatives template).length =
        (sequels template).countP (fun behind => (leadingBar? behind).isSome) + 1 := by
  have cut := cutInto_alternatives template
  refine ⟨cut.join_eq, ?_, cut.flatMap_spans, cut.length_eq⟩
  intro part member
  exact (cut.again part member).alternatives_eq

end Template
end LabelPress
