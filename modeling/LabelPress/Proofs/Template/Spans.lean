import LabelPress.Proofs.Expr.Parse
import LabelPress.Proofs.Text.Search
import LabelPress.Template
import Mathlib.Data.List.Infix

/-!
# Spans

A template laid out as texts with spans between them.  Main statement: the template
evaluates to the same layout with the value of each span in its place, so no span
touches another one or the text around it, and values are never looked at again.

The scanner looks for the leftmost opening and from there for the nearest closing.  Both
searches stop where the layout says, since a pair of braces can neither start inside a
gap or a body nor across its end.
-/

namespace LabelPress
namespace Template

/-- An expression in double braces. -/
def span (body : Text) : Text :=
  opening ++ body ++ closing

/-- A body ends at the closing of its span and nowhere before. -/
structure IsBody (body : Text) : Prop where
  nonempty : body ≠ []
  oneLine : '\n' ∉ body
  unclosed : ¬ closing <:+: body
  bare : body.getLast? ≠ some closeBrace

instance (body : Text) : Decidable (IsBody body) :=
  decidable_of_iff
    (body ≠ [] ∧ '\n' ∉ body ∧ ¬ closing <:+: body ∧ body.getLast? ≠ some closeBrace)
    ⟨fun ⟨nonempty, oneLine, unclosed, bare⟩ => ⟨nonempty, oneLine, unclosed, bare⟩,
      fun isBody => ⟨isBody.nonempty, isBody.oneLine, isBody.unclosed, isBody.bare⟩⟩

/-- A text, and then the bodies of spans with the text that follows each of them. -/
structure Layout where
  lead : Text
  parts : List (Text × Text)

namespace Layout

/-- The texts around the spans. -/
def gaps (layout : Layout) : List Text :=
  layout.lead :: layout.parts.map Prod.snd

/-- Write a layout out with a text for each body. -/
def fill
    (layout : Layout)
    (value : Text → Text) : Text :=
  layout.lead ++ layout.parts.flatMap fun part => value part.1 ++ part.2

/-- Spans are found where the layout has them, and none is followed by bars. -/
structure Isolated (layout : Layout) : Prop where
  bodies : ∀ part ∈ layout.parts, IsBody part.1
  unopened : ∀ gap ∈ layout.gaps, ¬ opening <:+: gap
  bare : ∀ gap ∈ layout.gaps.dropLast, gap.getLast? ≠ some openBrace
  unbarred : ∀ gap ∈ layout.gaps.tail, ¬ Expr.alternativeToken <+: Text.trimLeft gap

theorem fill_cons
    (lead body gap : Text)
    (parts : List (Text × Text))
    (value : Text → Text) :
    fill ⟨lead, (body, gap) :: parts⟩ value =
      lead ++ (value body ++ fill ⟨gap, parts⟩ value) := by
  simp [fill]

theorem Isolated.rest
    {lead body gap : Text}
    {parts : List (Text × Text)}
    (isolated : Isolated ⟨lead, (body, gap) :: parts⟩) :
    Isolated ⟨gap, parts⟩ where
  bodies part member := isolated.bodies part (List.mem_cons_of_mem _ member)
  unopened other member := isolated.unopened other (List.mem_cons_of_mem _ member)
  bare other member := isolated.bare other (List.mem_cons_of_mem _ member)
  unbarred other member := isolated.unbarred other (List.mem_cons_of_mem _ member)

end Layout

/-- A doubled character starts in a text only if it stands in it or ends the text. -/
theorem not_pair_prefix_append
    {c : Char}
    {text : Text}
    (nonempty : text ≠ [])
    (free : ¬ [c, c] <:+: text)
    (bare : text.getLast? ≠ some c)
    (rest : Text) :
    ¬ [c, c] <+: text ++ rest := by
  intro begins
  cases text with
  | nil => exact nonempty rfl
  | cons first tail =>
      cases tail with
      | nil =>
          obtain ⟨rfl, -⟩ := List.cons_prefix_cons.1 begins
          exact bare rfl
      | cons second others =>
          obtain ⟨rfl, later⟩ := List.cons_prefix_cons.1 begins
          obtain ⟨rfl, -⟩ := List.cons_prefix_cons.1 later
          exact free (List.prefix_append [c, c] others).isInfix

/-- A doubled character lies in the second of two texts if the first one lacks it. -/
theorem pair_isInfix_right
    {c : Char}
    {left right : Text}
    (absent : c ∉ left)
    (found : [c, c] <:+: left ++ right) :
    [c, c] <:+: right := by
  apply Text.isInfix_append_right (List.cons_ne_nil c [c]) _ found
  intro d member
  have different : d ≠ c := ne_of_mem_of_not_mem member absent
  simpa using different

/-- A doubled character lies in the first of two texts if the second one lacks it. -/
theorem pair_isInfix_left
    {c : Char}
    {left right : Text}
    (absent : c ∉ right)
    (found : [c, c] <:+: left ++ right) :
    [c, c] <:+: left := by
  apply Text.isInfix_append_left (List.cons_ne_nil c [c]) _ found
  intro d member
  have different : d ≠ c := ne_of_mem_of_not_mem member absent
  simpa using different

/-- A doubled character does not lie across another one. -/
theorem pair_isInfix_append_cons
    {c d : Char}
    {left right : Text}
    (different : d ≠ c)
    (found : [c, c] <:+: left ++ d :: right) :
    [c, c] <:+: left ∨ [c, c] <:+: right := by
  induction left with
  | nil =>
      right
      have absent : c ∉ [d] := by simpa using different.symm
      exact pair_isInfix_right absent found
  | cons e left inductionHypothesis =>
      rcases List.infix_cons_iff.1 found with here | later
      · left
        obtain ⟨rfl, next⟩ := List.cons_prefix_cons.1 here
        cases left with
        | nil => exact absurd (List.cons_prefix_cons.1 next).1 different.symm
        | cons f left =>
            obtain ⟨rfl, -⟩ := List.cons_prefix_cons.1 next
            exact (List.prefix_append [c, c] left).isInfix
      · apply (inductionHypothesis later).imp_left
        intro inside
        exact inside.trans (List.suffix_cons e left).isInfix

/-- A text with a doubled character in it is parted at the first place where it stands. -/
theorem exists_first_pair
    {c : Char}
    {text : Text}
    (found : [c, c] <:+: text) :
    ∃ left right, text = left ++ [c, c] ++ right ∧ ¬ [c, c] <:+: left ∧
      left.getLast? ≠ some c := by
  induction text with
  | nil => simp at found
  | cons d text inductionHypothesis =>
      by_cases here : [c, c] <+: d :: text
      · obtain ⟨right, behind⟩ := here
        exact ⟨[], right, behind.symm, by simp, by simp⟩
      · obtain ⟨left, right, rfl, free, bare⟩ :=
          inductionHypothesis ((List.infix_cons_iff.1 found).resolve_left here)
        refine ⟨d :: left, right, rfl, ?_, ?_⟩
        · intro inside
          rcases List.infix_cons_iff.1 inside with begins | later
          · rw [List.append_assoc] at here
            exact here (begins.trans (List.prefix_append (d :: left) _))
          · exact free later
        · cases left with
          | nil =>
              intro same
              obtain rfl : d = c := by simpa using same
              exact here (List.prefix_append [d, d] _)
          | cons e left => simpa using bare

theorem not_closing_isInfix
    {text : Text}
    (unbraced : closeBrace ∉ text) :
    ¬ closing <:+: text := by
  intro found
  exact unbraced (found.subset List.mem_cons_self)

theorem getLast?_ne_closeBrace
    {text : Text}
    (unbraced : closeBrace ∉ text) :
    text.getLast? ≠ some closeBrace := by
  intro last
  exact unbraced (List.mem_of_getLast? last)

/-- A closing behind the text is the first one. -/
structure ClosesLast (text : Text) : Prop where
  unclosed : ¬ closing <:+: text
  bare : text.getLast? ≠ some closeBrace

theorem IsBody.closesLast
    {body : Text}
    (isBody : IsBody body) :
    ClosesLast body :=
  ⟨isBody.unclosed, isBody.bare⟩

theorem ClosesLast.tail
    {c : Char}
    {text : Text}
    (closesLast : ClosesLast (c :: text)) :
    ClosesLast text where
  unclosed found := closesLast.unclosed (found.trans (List.suffix_cons c text).isInfix)
  bare := by
    have bare := closesLast.bare
    cases text with
    | nil => simp
    | cons d text => simpa using bare

theorem ClosesLast.prepend
    {left right : Text}
    (closesLast : ClosesLast right)
    (unbraced : closeBrace ∉ left) :
    ClosesLast (left ++ right) where
  unclosed found := closesLast.unclosed (pair_isInfix_right unbraced found)
  bare := by
    have bare := closesLast.bare
    rw [List.getLast?_append]
    cases last : right.getLast? with
    | none => exact getLast?_ne_closeBrace unbraced
    | some c => simpa [last] using bare

theorem ClosesLast.append
    {left right : Text}
    (closesLast : ClosesLast left)
    (unbraced : closeBrace ∉ right) :
    ClosesLast (left ++ right) where
  unclosed found := closesLast.unclosed (pair_isInfix_left unbraced found)
  bare := by
    have ends := getLast?_ne_closeBrace unbraced
    rw [List.getLast?_append]
    cases last : right.getLast? with
    | none => simpa using closesLast.bare
    | some c => simpa [last] using ends

/-- A body can start with any text on one line without a closing brace. -/
theorem isBody_append
    {left right : Text}
    (nonempty : left ≠ [])
    (leftLine : '\n' ∉ left)
    (unbraced : closeBrace ∉ left)
    (oneLine : '\n' ∉ right)
    (unclosed : ¬ closing <:+: right)
    (bare : right.getLast? ≠ some closeBrace) :
    IsBody (left ++ right) := by
  have closesLast := ClosesLast.prepend ⟨unclosed, bare⟩ unbraced
  refine ⟨List.append_ne_nil_of_left_ne_nil nonempty right, ?_, closesLast.unclosed,
    closesLast.bare⟩
  rw [List.mem_append, not_or]
  exact ⟨leftLine, oneLine⟩

/-- A body can go on with any text on one line without a closing brace. -/
theorem IsBody.append
    {left right : Text}
    (isBody : IsBody left)
    (oneLine : '\n' ∉ right)
    (unbraced : closeBrace ∉ right) :
    IsBody (left ++ right) := by
  have closesLast := isBody.closesLast.append unbraced
  refine ⟨List.append_ne_nil_of_left_ne_nil isBody.nonempty right, ?_, closesLast.unclosed,
    closesLast.bare⟩
  rw [List.mem_append, not_or]
  exact ⟨isBody.oneLine, oneLine⟩

/-- The nearest closing behind a body is its own. -/
theorem spanBody?_append
    {body : Text}
    (isBody : IsBody body)
    (rest : Text) :
    spanBody? (body ++ closing ++ rest) = some (body, rest) := by
  induction body with
  | nil => exact absurd rfl isBody.nonempty
  | cons c tail inductionHypothesis =>
      have stays : c ≠ '\n' := fun same => isBody.oneLine (by simp [same])
      rw [List.cons_append, List.cons_append, spanBody?, if_neg stays]
      cases tail with
      | nil => simp [closing]
      | cons d others =>
          have closesLast := isBody.closesLast.tail
          have oneLine : '\n' ∉ d :: others := fun member =>
            isBody.oneLine (List.mem_cons_of_mem c member)
          have shorter : IsBody (d :: others) :=
            ⟨List.cons_ne_nil d others, oneLine, closesLast.unclosed, closesLast.bare⟩
          have notHere : ¬ closing.isPrefixOf (d :: others ++ closing ++ rest) := by
            rw [List.isPrefixOf_iff_prefix, List.append_assoc]
            exact not_pair_prefix_append shorter.nonempty shorter.unclosed shorter.bare _
          rw [if_neg notHere, inductionHypothesis shorter]
          rfl

/-- A body that is found between its braces whatever text follows them. -/
def IsFound (body : Text) : Prop :=
  ∀ rest, leadingSpan? (span body ++ rest) = some (body, rest)

theorem isFound_of_spanBody?
    {body : Text}
    (found : ∀ rest, spanBody? (body ++ closing ++ rest) = some (body, rest)) :
    IsFound body := by
  intro rest
  have split : span body ++ rest = opening ++ (body ++ closing ++ rest) := by
    simp [span]
  rw [leadingSpan?, split, if_pos (by simp [opening])]
  exact found rest

theorem IsBody.isFound
    {body : Text}
    (isBody : IsBody body) :
    IsFound body :=
  isFound_of_spanBody? (spanBody?_append isBody)

theorem leadingSpan?_eq_none
    {text : Text}
    (absent : ¬ opening <+: text) :
    leadingSpan? text = none := by
  rw [leadingSpan?, if_neg]
  rwa [List.isPrefixOf_iff_prefix]

/-- A gap ends the template, or the next span does not start across its end. -/
def IsGap
    (gap rest : Text) : Prop :=
  ¬ opening <:+: gap ∧ (gap.getLast? ≠ some openBrace ∨ rest = [])

theorem IsGap.tail
    {c : Char}
    {gap rest : Text}
    (isGap : IsGap (c :: gap) rest) :
    IsGap gap rest := by
  refine ⟨fun found => isGap.1 (found.trans (List.suffix_cons c gap).isInfix), ?_⟩
  apply isGap.2.imp_left
  intro bare
  cases gap with
  | nil => simp
  | cons d others => simpa using bare

theorem IsGap.leadingSpan?_eq_none
    {c : Char}
    {gap rest : Text}
    (isGap : IsGap (c :: gap) rest) :
    leadingSpan? (c :: (gap ++ rest)) = none := by
  apply Template.leadingSpan?_eq_none
  rcases isGap.2 with bare | rfl
  · exact not_pair_prefix_append (List.cons_ne_nil c gap) isGap.1 bare rest
  · rw [List.append_nil]
    exact fun begins => isGap.1 begins.isInfix

/-- No span starts in the first of two texts. -/
def Unspanned : Text → Text → Prop
  | [], _ => True
  | c :: front, rest => leadingSpan? (c :: (front ++ rest)) = none ∧ Unspanned front rest

/-- Whether a span starts in a text is decided at one character after the other. -/
def decideUnspanned : ∀ front rest, Decidable (Unspanned front rest)
  | [], _ => .isTrue trivial
  | _ :: front, rest => @instDecidableAnd _ _ inferInstance (decideUnspanned front rest)

instance (front rest : Text) : Decidable (Unspanned front rest) :=
  decideUnspanned front rest

theorem IsGap.unspanned
    {gap rest : Text}
    (isGap : IsGap gap rest) :
    Unspanned gap rest := by
  induction gap with
  | nil => trivial
  | cons c gap inductionHypothesis =>
      exact ⟨isGap.leadingSpan?_eq_none, inductionHypothesis isGap.tail⟩

theorem segments_cons
    {c : Char}
    {rest : Text}
    (absent : leadingSpan? (c :: rest) = none) :
    segments (c :: rest) = .plain c :: segments rest := by
  rw [segments]
  split
  · simp_all
  · rfl

theorem segments_span
    {body : Text}
    (isFound : IsFound body)
    (rest : Text) :
    segments (span body ++ rest) = .span body :: segments rest := by
  have found := isFound rest
  obtain ⟨c, others, shape⟩ : ∃ c others, span body ++ rest = c :: others := ⟨_, _, rfl⟩
  rw [shape] at found ⊢
  rw [segments]
  split <;> simp_all

theorem Unspanned.segments_append
    {front rest : Text}
    (unspanned : Unspanned front rest) :
    segments (front ++ rest) = front.map .plain ++ segments rest := by
  induction front with
  | nil => rfl
  | cons c front inductionHypothesis =>
      rw [List.cons_append, segments_cons unspanned.1, inductionHypothesis unspanned.2]
      rfl

theorem alternatives_cons
    {c : Char}
    {rest : Text}
    (absent : leadingSpan? (c :: rest) = none) :
    alternatives (c :: rest) = prependFirst [c] (alternatives rest) := by
  rw [alternatives]
  split
  · simp_all
  · rfl

theorem alternatives_span
    {body rest : Text}
    (isFound : IsFound body)
    (unbarred : leadingBar? rest = none) :
    alternatives (span body ++ rest) = prependFirst (span body) (alternatives rest) := by
  have found := isFound rest
  obtain ⟨c, others, shape⟩ : ∃ c others, span body ++ rest = c :: others := ⟨_, _, rfl⟩
  rw [shape] at found ⊢
  rw [alternatives]
  split
  · rename_i body' after found'
    obtain ⟨rfl, rfl⟩ : body' = body ∧ after = rest := by simp_all
    dsimp only
    split
    · simp_all
    · rfl
  · simp_all

theorem Unspanned.alternatives_append
    {front rest : Text}
    (unspanned : Unspanned front rest)
    (single : alternatives rest = [rest]) :
    alternatives (front ++ rest) = [front ++ rest] := by
  induction front with
  | nil => exact single
  | cons c front inductionHypothesis =>
      rw [List.cons_append, alternatives_cons unspanned.1, inductionHypothesis unspanned.2]
      rfl

theorem alternatives_nil : alternatives [] = [[]] := by
  rw [alternatives]

/-- A template that is not cut at bars has its spans replaced. -/
theorem evaluate_of_single
    {template : Text}
    (single : alternatives template = [template])
    (row : Row)
    (context : Context) :
    evaluate row context template = substitute row context template := by
  rw [evaluate, single]

/-- Text in which no span starts stays in front of what is evaluated. -/
theorem Unspanned.substitute_append
    {front rest : Text}
    (unspanned : Unspanned front rest)
    (row : Row)
    (context : Context) :
    substitute row context (front ++ rest) = front ++ substitute row context rest := by
  rw [substitute, unspanned.segments_append, List.flatMap_append, List.flatMap_map, substitute]
  congr 1
  exact List.flatMap_singleton' front

/-- No bars follow a span if its gap starts with none. -/
theorem leadingBar?_eq_none
    {gap : Text}
    (unbarred : ¬ Expr.alternativeToken <+: Text.trimLeft gap) :
    leadingBar? gap = none := by
  rw [leadingBar?, if_neg]
  rwa [List.isPrefixOf_iff_prefix]

/-- A span behind a gap does not complete bars. -/
theorem leadingBar?_append_eq_none
    {gap : Text}
    (unbarred : ¬ Expr.alternativeToken <+: Text.trimLeft gap)
    (rest : Text) :
    leadingBar? (gap ++ openBrace :: rest) = none := by
  apply leadingBar?_eq_none
  rw [Text.trimLeft_append_cons (by decide)]
  rw [Expr.alternativeToken] at unbarred ⊢
  generalize Text.trimLeft gap = front at unbarred ⊢
  rcases front with _ | ⟨first, _ | ⟨second, others⟩⟩
  · simp [openBrace]
  · simp [openBrace]
  · simpa using unbarred

namespace Layout

theorem Isolated.leadIsGap
    {lead : Text}
    {parts : List (Text × Text)}
    (isolated : Isolated ⟨lead, parts⟩) :
    IsGap lead (parts.flatMap fun part => span part.1 ++ part.2) := by
  refine ⟨isolated.unopened lead (List.mem_cons_self ..), ?_⟩
  cases parts with
  | nil => exact Or.inr rfl
  | cons part parts =>
      exact Or.inl (isolated.bare lead (by simp [gaps]))

/-- Behind a span of a layout stand no bars. -/
theorem Isolated.leadingBar?_eq_none
    {lead body gap : Text}
    {parts : List (Text × Text)}
    (isolated : Isolated ⟨lead, (body, gap) :: parts⟩) :
    leadingBar? (fill ⟨gap, parts⟩ span) = none := by
  have unbarred := isolated.unbarred gap (List.mem_cons_self ..)
  cases parts with
  | nil =>
      simpa [fill] using Template.leadingBar?_eq_none unbarred
  | cons part parts =>
      rw [fill_cons]
      exact leadingBar?_append_eq_none unbarred _

/-- An isolated layout is cut into its spans and the characters around them. -/
theorem Isolated.segments_fill
    {layout : Layout}
    (isolated : layout.Isolated) :
    segments (layout.fill span) =
      layout.lead.map .plain ++
        layout.parts.flatMap fun part => .span part.1 :: part.2.map .plain := by
  obtain ⟨lead, parts⟩ := layout
  rw [fill, isolated.leadIsGap.unspanned.segments_append]
  congr 1
  induction parts generalizing lead with
  | nil => simp [segments]
  | cons part parts inductionHypothesis =>
      obtain ⟨body, gap⟩ := part
      have isBody : IsBody body := isolated.bodies _ (List.mem_cons_self ..)
      simp only [List.flatMap_cons, List.append_assoc]
      rw [segments_span isBody.isFound, isolated.rest.leadIsGap.unspanned.segments_append,
        inductionHypothesis gap isolated.rest]
      rfl

/-- An isolated layout is a single alternative. -/
theorem Isolated.alternatives_fill
    {layout : Layout}
    (isolated : layout.Isolated) :
    alternatives (layout.fill span) = [layout.fill span] := by
  obtain ⟨lead, parts⟩ := layout
  induction parts generalizing lead with
  | nil =>
      exact isolated.leadIsGap.unspanned.alternatives_append alternatives_nil
  | cons part parts inductionHypothesis =>
      obtain ⟨body, gap⟩ := part
      have isBody : IsBody body := isolated.bodies _ (List.mem_cons_self ..)
      refine isolated.leadIsGap.unspanned.alternatives_append ?_
      have shape :
          ((body, gap) :: parts).flatMap (fun part => span part.1 ++ part.2) =
            span body ++ fill ⟨gap, parts⟩ span := by
        simp [fill]
      rw [shape, alternatives_span isBody.isFound isolated.leadingBar?_eq_none,
        inductionHypothesis gap isolated.rest]
      rfl

/-- A layout evaluates to its gaps with the texts of its expressions between them. -/
theorem Isolated.evaluate_fill
    {layout : Layout}
    (isolated : layout.Isolated)
    (row : Row)
    (context : Context) :
    evaluate row context (layout.fill span) =
      layout.fill fun body => Expr.evalText row context (Text.trim body) := by
  rw [evaluate_of_single isolated.alternatives_fill, substitute, isolated.segments_fill]
  simp [fill, List.flatMap_assoc, List.flatMap_map]

theorem Isolated.single
    {body : Text}
    (isBody : IsBody body) :
    Isolated ⟨[], [(body, [])]⟩ where
  bodies := by simpa using isBody
  unopened := by simp [gaps, opening]
  bare := by simp [gaps]
  unbarred := by simp [gaps, Expr.alternativeToken]

end Layout

theorem evaluate_span
    {body : Text}
    (isBody : IsBody body)
    (row : Row)
    (context : Context) :
    evaluate row context (span body) = Expr.evalText row context (Text.trim body) := by
  simpa [Layout.fill] using (Layout.Isolated.single isBody).evaluate_fill row context

/-- A template in which no span starts is plain text. -/
theorem evaluate_of_unspanned
    {template : Text}
    (unspanned : Unspanned template [])
    (row : Row)
    (context : Context) :
    evaluate row context template = template := by
  have single := unspanned.alternatives_append alternatives_nil
  have parts := unspanned.substitute_append row context
  have nothing : substitute row context [] = [] := by simp [substitute, segments]
  rw [List.append_nil] at single parts
  rw [evaluate_of_single single, parts, nothing, List.append_nil]

/-- The text of a column, the error marker where it cannot be written. -/
def columnText
    (row : Row)
    (name : Text) : Text :=
  match row.column? name with
  | .ok text => text.getD []
  | .error _ => errorMarker

theorem evalText_of_noBars
    {text : Text}
    (noBars : ¬ Expr.alternativeToken <:+: text)
    (noCall : '(' ∉ text)
    (row : Row)
    (context : Context) :
    Expr.evalText row context (Text.trim text) = columnText row (Text.trim text) := by
  rw [Expr.evalText, Expr.parse_trim, Expr.parse_of_noBars noBars noCall]
  simp only [EvalFault.liftSyntax, Expr.eval, columnText]
  cases row.column? (Text.trim text) <;> rfl

/--
Every span of an isolated layout is replaced by its own value and the text around the
spans is kept.  The value of a span without bars and parentheses is the text of the
column named between its outer blanks, whatever that text holds.
-/
theorem evaluate_isolated
    {layout : Layout}
    (isolated : layout.Isolated)
    (row : Row)
    (context : Context) :
    evaluate row context (layout.fill span) =
        layout.fill (fun body => evaluate row context (span body)) ∧
      ∀ part ∈ layout.parts,
        evaluate row context (span part.1) =
            Expr.evalText row context (Text.trim part.1) ∧
          (¬ Expr.alternativeToken <:+: part.1 → '(' ∉ part.1 →
            evaluate row context (span part.1) = columnText row (Text.trim part.1)) := by
  have value (part : Text × Text) (member : part ∈ layout.parts) :=
    evaluate_span (isolated.bodies part member) row context
  constructor
  · rw [isolated.evaluate_fill, Layout.fill, Layout.fill]
    congr 1
    apply List.flatMap_congr
    intro part member
    rw [value part member]
  · intro part member
    refine ⟨value part member, ?_⟩
    intro noBars noCall
    rw [value part member, evalText_of_noBars noBars noCall]

theorem evaluate_isolated_braces_and_bars :
    let layout : Layout := ⟨"1".toList, [(" a ".toList, "2".toList), ("b".toList, "3".toList)]⟩
    let row : Row :=
      [(.name "a".toList, .text "\x7b\x7bb\x7d\x7d".toList),
        (.name "b".toList, .text "x || y".toList)]
    let context : Context := ⟨0, 1, .midnight ⟨2026, 3, 15, by decide, by decide, by decide⟩⟩
    layout.Isolated ∧
      evaluate row context (layout.fill span) = "1\x7b\x7bb\x7d\x7d2x || y3".toList := by
  intro layout row context
  have isolated : layout.Isolated :=
    { bodies := by decide
      unopened := by decide
      bare := by decide
      unbarred := by decide }
  refine ⟨isolated, ?_⟩
  have first := (evaluate_isolated isolated row context).2 (" a ".toList, "2".toList)
    (by decide)
  have second := (evaluate_isolated isolated row context).2 ("b".toList, "3".toList)
    (by decide)
  rw [(evaluate_isolated isolated row context).1]
  simp only [layout, Layout.fill, List.flatMap_cons, List.flatMap_nil]
  rw [first.2 (by decide) (by decide), second.2 (by decide) (by decide)]
  decide

/-- Outer blanks in the braces do not count as a part of the name of a column. -/
theorem evaluate_span_outer_blank :
    let row : Row := [(.name " a".toList, .text "v".toList)]
    let context : Context := ⟨0, 1, .midnight ⟨2026, 3, 15, by decide, by decide, by decide⟩⟩
    IsBody " a".toList ∧
      row.column? " a".toList = .ok (some "v".toList) ∧
      evaluate row context (span " a".toList) ≠ "v".toList := by
  intro row context
  have isBody : IsBody " a".toList := by decide
  refine ⟨isBody, by decide, ?_⟩
  rw [evaluate_span isBody, evalText_of_noBars (by decide) (by decide)]
  decide

end Template
end LabelPress
