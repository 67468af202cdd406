import LabelPress.Proofs.Expr.Commas
import LabelPress.Proofs.Expr.Embedding

/-!
# Where a call ends

A call is read up to the last closing parenthesis of its text, whether or not that is the
one that closes the call.  Main statement: what is read as a call is one call exactly if
each of its arguments is balanced on its own and its name shows no parenthesis.  Without
quotes there are never fewer closing parentheses than opening ones, and the text is one
call exactly if there are as many.

Stray closing parentheses become part of a name.  A stray opening one cannot, because
what has one is read as a call again, with a closing parenthesis of its own; only a quoted
argument, which is not read further, can hide it.
-/

namespace LabelPress

open ScanState

namespace ScanState

/-! ## Quotes of two scans -/

/-- A quote that is open is one of the quote characters. -/
def Quotes (state : ScanState) : Prop :=
  ∀ quote, state.quote = some quote → isQuote quote

theorem quotes_start : start.Quotes := by
  rintro quote ⟨⟩

section
variable {state other : ScanState} {c : Char}

theorem quote_next
    (state : ScanState)
    (c : Char) :
    (state.next c).quote =
      match state.quote with
      | some quote => if c = quote then none else some quote
      | none => if isQuote c then some c else none := by
  obtain ⟨quote, depth⟩ := state
  cases quote with
  | some quote =>
      simp only [next]
      split <;> rfl
  | none =>
      by_cases quotes : isQuote c
      · simp [next, quotes]
      · simp only [quotes, Bool.false_eq_true, if_false]
        exact quote_next_of_isQuote_eq_false rfl (by simpa using quotes)

theorem Quotes.next
    (quotes : state.Quotes) :
    (state.next c).Quotes := by
  intro quote opened
  rw [quote_next] at opened
  cases here : state.quote with
  | none => grind
  | some quote =>
      have isQuote := quotes quote here
      grind

theorem Quotes.run
    {text : Text}
    (quotes : state.Quotes) :
    (state.run text).Quotes := by
  induction text generalizing state with
  | nil => exact quotes
  | cons c rest inductionHypothesis => exact inductionHypothesis quotes.next

/-- A character takes different quotes to different quotes. -/
theorem Quotes.quote_eq_of_next
    (quotes : state.Quotes)
    (otherQuotes : other.Quotes)
    (same : (state.next c).quote = (other.next c).quote) :
    state.quote = other.quote := by
  rw [quote_next, quote_next] at same
  cases here : state.quote with
  | none =>
      cases there : other.quote with
      | none => rfl
      | some quote =>
          have isQuote := otherQuotes quote there
          grind
  | some quote =>
      have isQuote := quotes quote here
      cases there : other.quote with
      | none => grind
      | some otherQuote =>
          have isOtherQuote := otherQuotes otherQuote there
          grind

/-- Scans of a text that end alike inside or outside quotes began alike. -/
theorem Quotes.quote_eq_of_run
    {text : Text}
    (quotes : state.Quotes)
    (otherQuotes : other.Quotes)
    (same : (state.run text).quote = (other.run text).quote) :
    state.quote = other.quote := by
  induction text generalizing state other with
  | nil => exact same
  | cons c rest inductionHypothesis =>
      exact quotes.quote_eq_of_next otherQuotes
        (inductionHypothesis quotes.next otherQuotes.next same)

end

/-! ## Texts without parentheses -/

/-- No parenthesis stands outside the quotes of a text. -/
def Unparenthesized : ScanState → Text → Prop :=
  Along fun state c => state.quote = none → c ≠ '(' ∧ c ≠ ')'

instance
    (state : ScanState)
    (text : Text) :
    Decidable (Unparenthesized state text) :=
  inferInstanceAs (Decidable (Along _ state text))

theorem depth_next
    {state : ScanState}
    {c : Char}
    (different : state.quote = none → c ≠ '(' ∧ c ≠ ')') :
    (state.next c).depth = state.depth := by
  obtain ⟨quote, depth⟩ := state
  cases quote with
  | some quote =>
      simp only [next]
      split <;> rfl
  | none =>
      have apart := different rfl
      simp only [next, apart.1, apart.2, if_false]
      split <;> rfl

/-- A text without parentheses is scanned at one depth. -/
theorem Unparenthesized.depth
    {state : ScanState}
    {text : Text}
    (free : Unparenthesized state text) :
    (state.run text).depth = state.depth ∧
      Along (fun later _ => later.depth = state.depth) state text := by
  induction text generalizing state with
  | nil => exact ⟨rfl, trivial⟩
  | cons c rest inductionHypothesis =>
      obtain ⟨here, behind⟩ := free
      have kept := inductionHypothesis behind
      rw [depth_next here] at kept
      exact ⟨kept.1, rfl, kept.2⟩

end ScanState

/-- A name shows no parenthesis and leaves no quote open. -/
def IsCallName (name : Text) : Prop :=
  Unparenthesized start name ∧ (start.run name).quote = none

instance (name : Text) : Decidable (IsCallName name) :=
  inferInstanceAs (Decidable (Unparenthesized start name ∧ (start.run name).quote = none))

theorem IsCallName.ofPlain
    {name : Text}
    (plain : ∀ c ∈ name, isPlain c) :
    IsCallName name := by
  refine ⟨along_atDepth_of_isPlain plain ?_, ?_⟩
  · intro c member _
    have each := plain c member
    simp only [isPlain, Bool.and_eq_true, bne_iff_ne] at each
    exact ⟨each.1.2, each.2⟩
  · rw [start_eq_atDepth, run_atDepth_of_isPlain plain]
    rfl

theorem IsCallName.balanced
    {name : Text}
    (named : IsCallName name) :
    Balanced name := by
  obtain ⟨free, closed⟩ := named
  obtain ⟨depth, along⟩ := free.depth
  refine Balanced.iff_start.2 ⟨?_, along.mono fun _ _ same => Int.le_of_eq same.symm⟩
  generalize start.run name = ended at depth closed
  obtain ⟨quote, level⟩ := ended
  obtain rfl : quote = none := closed
  obtain rfl : level = 0 := depth
  rfl

/--
A text is one call: outside quotes no parenthesis stands before its first opening one, and
the closing one that belongs to that is the last character.
-/
def IsCall (text : Text) : Prop :=
  ∃ name inner, text = name ++ parenthesized inner ∧ IsCallName name ∧ Balanced inner

theorem IsCall.balanced
    {text : Text}
    (isCall : IsCall text) :
    Balanced text := by
  obtain ⟨name, inner, rfl, named, balanced⟩ := isCall
  exact named.balanced.append balanced.parenthesized

/-- A parenthesis inside quotes and the one at the end cannot both have closed quotes behind. -/
theorem not_isCallName_append_open
    {function inner more arguments : Text}
    (closed : (start.run inner).quote = none)
    (behind : inner ++ [')'] = more ++ parenthesized arguments)
    (balanced : Balanced arguments) :
    ¬ IsCallName (function ++ '(' :: more) := by
  intro named
  have quoted : (start.run function).quote ≠ none := by
    intro outside
    have shown := ((along_append _ _ _).1 named.1).2.1 outside
    exact shown.1 rfl
  have fromQuotes : (((start.run function).next '(').run (inner ++ [')'])).quote = none := by
    have whole : start.run (function ++ '(' :: more) = start := named.balanced.run_start
    rw [run_append, run_cons] at whole
    rw [behind, run_append, whole, balanced.parenthesized.run_start]
    rfl
  have fromStart : ((start.next '(').run (inner ++ [')'])).quote = none := by
    have inside : ((start.next '(').run inner).quote = none := by
      rw [start_eq_atDepth, next_atDepth_open, Balanced.atDepth_eq_deeper, run_deeper]
      exact closed
    rw [run_append, run_cons, run_nil]
    exact quote_next_of_isQuote_eq_false inside (by decide)
  apply quoted
  exact quotes_start.run.quote_eq_of_next quotes_start
    (quotes_start.run.next.quote_eq_of_run quotes_start.next (fromQuotes.trans fromStart.symm))

/-- The call of a text begins at its first opening parenthesis or not at all. -/
theorem isCall_iff
    {function inner : Text}
    (unopened : '(' ∉ function)
    (closed : (start.run inner).quote = none) :
    IsCall (function ++ parenthesized inner) ↔ IsCallName function ∧ Balanced inner := by
  constructor
  · rintro ⟨name, arguments, same, named, balanced⟩
    obtain ⟨more, rfl, behind⟩ := Text.exists_append_of_not_mem unopened same
    cases more with
    | nil =>
        rw [List.append_nil] at named
        obtain rfl : inner = arguments := by simpa [parenthesized] using behind
        exact ⟨named, balanced⟩
    | cons c more =>
        obtain ⟨first, inside⟩ := List.cons.inj behind
        obtain rfl : '(' = c := first
        exact absurd named (not_isCallName_append_open closed inside balanced)
  · rintro ⟨named, balanced⟩
    exact ⟨function, inner, rfl, named, balanced⟩

/-! ## Balance of the arguments -/

/-- A text is balanced if the texts around a comma at its top level are. -/
theorem balanced_append_comma
    {left right : Text}
    (closed : start.run left = start) :
    Balanced (left ++ ',' :: right) ↔ Balanced left ∧ Balanced right := by
  constructor
  · intro balanced
    obtain ⟨returns, stays⟩ := Balanced.iff_start.1 balanced
    rw [run_append, closed, run_cons] at returns
    rw [along_append, closed, along_cons] at stays
    exact ⟨Balanced.iff_start.2 ⟨closed, stays.1⟩, Balanced.iff_start.2 ⟨returns, stays.2.2⟩⟩
  · rintro ⟨leftBalanced, rightBalanced⟩
    have comma : Balanced [','] := .ofPlain (by decide)
    exact leftBalanced.append (comma.append rightBalanced)

/-- A text is balanced exactly if each segment between its commas is. -/
theorem balanced_iff_cutAtCommas {inner : Text} :
    Balanced inner ↔ ∀ segment ∈ Argument.cutAtCommas start inner, Balanced segment := by
  induction length : inner.length using Nat.strong_induction_on generalizing inner with
  | _ bound inductionHypothesis =>
      cases found : findTopLevel? inner [','] with
      | none =>
          have hidden := (findTopLevel?_eq_none_iff (by decide)).1 found
          rw [Argument.cutAtCommas_of_hides hidden, List.forall_mem_singleton]
      | some place =>
          obtain ⟨left, right, rfl, hidden, closed⟩ :=
            exists_append_cons_of_findTopLevel? (by decide) found
          have shorter : right.length < bound := by
            rw [← length, List.length_append, List.length_cons]
            omega
          rw [Argument.cutAtCommas_append_comma hidden (isTop_iff_eq_start.2 closed),
            List.forall_mem_cons, balanced_append_comma closed,
            inductionHypothesis _ shorter rfl]

/-! ## Counting parentheses -/

/-- A text without quotes. -/
def QuoteFree (text : Text) : Prop :=
  ∀ c ∈ text, isQuote c = false

instance (text : Text) : Decidable (QuoteFree text) :=
  inferInstanceAs (Decidable (∀ c ∈ text, isQuote c = false))

theorem QuoteFree.subset
    {text part : Text}
    (free : QuoteFree text)
    (inside : part ⊆ text) :
    QuoteFree part :=
  fun c member => free c (inside member)

/-- Without quotes a scan counts parentheses. -/
theorem QuoteFree.run_eq
    {text : Text}
    (free : QuoteFree text)
    (depth : Int) :
    (atDepth depth).run text = atDepth (depth + text.count '(' - text.count ')') := by
  induction text generalizing depth with
  | nil => simp
  | cons c rest inductionHypothesis =>
      have behind := inductionHypothesis fun d member => free d (List.mem_cons_of_mem c member)
      rw [run_cons]
      by_cases opens : c = '('
      · subst opens
        rw [next_atDepth_open, behind, List.count_cons_self, List.count_cons_of_ne (by decide)]
        congr 1
        omega
      · by_cases closes : c = ')'
        · subst closes
          rw [next_atDepth_close, behind, List.count_cons_self,
            List.count_cons_of_ne (by decide)]
          congr 1
          omega
        · have plain : isPlain c := by
            simp [isPlain, free c List.mem_cons_self, opens, closes]
          rw [next_atDepth_of_isPlain plain, behind, List.count_cons_of_ne opens,
            List.count_cons_of_ne closes]

theorem QuoteFree.isPlain
    {text : Text}
    (free : QuoteFree text)
    (unopened : '(' ∉ text)
    (unclosed : ')' ∉ text) :
    ∀ c ∈ text, LabelPress.isPlain c := by
  intro c member
  have notOpen : c ≠ '(' := fun opens => unopened (opens ▸ member)
  have notClose : c ≠ ')' := fun closes => unclosed (closes ▸ member)
  simp [LabelPress.isPlain, free c member, notOpen, notClose]

theorem count_open_parenthesized (inner : Text) :
    (parenthesized inner).count '(' = inner.count '(' + 1 := by
  simp [parenthesized, List.count_append]

theorem count_close_parenthesized (inner : Text) :
    (parenthesized inner).count ')' = inner.count ')' + 1 := by
  simp [parenthesized, List.count_append]

/--
A text closes at least as many parentheses as it opens, and only a balanced one closes no
more of them.
-/
structure ClosesEnough (text : Text) : Prop where
  le : text.count '(' ≤ text.count ')'
  balanced : text.count '(' = text.count ')' → Balanced text

namespace ClosesEnough

theorem ofPlain
    {text : Text}
    (plain : ∀ c ∈ text, isPlain c) :
    ClosesEnough text where
  le := by
    have unopened : '(' ∉ text := fun member => absurd (plain _ member) (by decide)
    rw [List.count_eq_zero.2 unopened]
    exact Nat.zero_le _
  balanced _ := .ofPlain plain

theorem append
    {left right : Text}
    (first : ClosesEnough left)
    (second : ClosesEnough right) :
    ClosesEnough (left ++ right) where
  le := by
    rw [List.count_append, List.count_append]
    exact Nat.add_le_add first.le second.le
  balanced same := by
    rw [List.count_append, List.count_append] at same
    have firstLe := first.le
    have secondLe := second.le
    exact (first.balanced (by omega)).append (second.balanced (by omega))

/-- Without an opening parenthesis none is left open. -/
theorem ofUnopened
    {text : Text}
    (free : QuoteFree text)
    (unopened : '(' ∉ text) :
    ClosesEnough text where
  le := by
    rw [List.count_eq_zero.2 unopened]
    exact Nat.zero_le _
  balanced same := by
    rw [List.count_eq_zero.2 unopened] at same
    exact .ofPlain (free.isPlain unopened (List.count_eq_zero.1 same.symm))

/-- Blanks around a text neither open nor close anything. -/
theorem ofTrim
    {text : Text}
    (trimmed : ClosesEnough (Text.trim text)) :
    ClosesEnough text := by
  obtain ⟨before, after, blankBefore, blankAfter, parted⟩ := Text.spaced_trim text
  rw [parted]
  exact ((ofPlain (isPlain_of_allBlank blankBefore)).append trimmed).append
    (ofPlain (isPlain_of_allBlank blankAfter))

theorem parenthesized
    {inner : Text}
    (closed : ClosesEnough inner) :
    ClosesEnough (LabelPress.parenthesized inner) := by
  have opens := count_open_parenthesized inner
  have closes := count_close_parenthesized inner
  refine ⟨?_, ?_⟩
  · rw [opens, closes]
    exact Nat.add_le_add_right closed.le 1
  · intro same
    rw [opens, closes] at same
    exact (closed.balanced (Nat.add_right_cancel same)).parenthesized

theorem join
    {segments : List Text}
    (each : ∀ segment ∈ segments, ClosesEnough segment) :
    ClosesEnough (Text.join [','] segments) := by
  induction segments with
  | nil => exact .ofPlain (by simp [Text.join])
  | cons first others inductionHypothesis =>
      rw [List.forall_mem_cons] at each
      have behind := inductionHypothesis each.2
      cases others with
      | nil => exact each.1
      | cons second others =>
          have comma : ClosesEnough [','] := .ofPlain (by decide)
          exact (each.1.append comma).append behind

end ClosesEnough

namespace Expr

/-! ## Readable texts without quotes -/

/-- An argument that is read is left out of those of a call only if it is empty. -/
theorem mem_dropEmptyLast
    {argument : Argument}
    {arguments : List Argument}
    (member : argument ∈ arguments) :
    argument ∈ Argument.dropEmptyLast arguments ∨ argument = ⟨[], false⟩ := by
  rw [Argument.dropEmptyLast]
  split
  · rename_i last
    obtain ⟨front, rfl⟩ := List.getLast?_eq_some_iff.1 last
    rw [List.dropLast_concat]
    simpa using member
  · exact Or.inl member

theorem unquoted_of_quoteFree
    {state : ScanState}
    {text : Text}
    (outside : state.quote = none)
    (free : QuoteFree text) :
    Argument.Unquoted state text := by
  induction text generalizing state with
  | nil => trivial
  | cons c rest inductionHypothesis =>
      have plain := free c List.mem_cons_self
      refine ⟨Or.inr ⟨outside, plain⟩, ?_⟩
      exact inductionHypothesis (quote_next_of_isQuote_eq_false outside plain)
        (free.subset (List.subset_cons_self c rest))

/-- What stands between the parentheses of a readable call closes what it opens. -/
theorem closesEnough_inner
    {inner : Text}
    {arguments : List Argument}
    (free : QuoteFree inner)
    (parted : Argument.split inner = .ok arguments)
    (each : ∀ segment : Text, segment.length ≤ inner.length → QuoteFree segment →
      Succeeds (parseArgument ⟨segment, false⟩) → ClosesEnough segment)
    (read : ∀ argument ∈ arguments, Succeeds (parseArgument argument)) :
    ClosesEnough inner := by
  obtain ⟨-, rfl⟩ := Argument.split_eq_ok.1 parted
  rw [← Argument.join_cutAtCommas start inner]
  apply ClosesEnough.join
  intro segment member
  have inside : segment <:+: inner := by
    rw [← Argument.join_cutAtCommas start inner]
    exact Text.isInfix_join member
  have segmentFree := free.subset inside.subset
  apply ClosesEnough.ofTrim
  have denoted := Argument.ofText_of_unquoted (unquoted_of_quoteFree rfl segmentFree)
  have listed : Argument.ofText segment ∈ (Argument.cutAtCommas start inner).map Argument.ofText :=
    List.mem_map_of_mem member
  rcases mem_dropEmptyLast listed with kept | empty
  · have readable := read _ kept
    rw [denoted] at readable
    have shorter := Nat.le_trans (Text.length_trim_le segment) inside.length_le
    exact each _ shorter (segmentFree.subset (Text.trim_isInfix segment).subset) readable
  · rw [denoted] at empty
    have nothing : Text.trim segment = [] := congrArg Argument.text empty
    rw [nothing]
    exact .ofPlain (by simp)

/-- A readable call closes what it opens, if its readable arguments do. -/
theorem closesEnough_of_parseCall
    {text : Text}
    (free : QuoteFree text)
    (each : ∀ segment : Text, segment.length < text.length → QuoteFree segment →
      Succeeds (parseArgument ⟨segment, false⟩) → ClosesEnough segment)
    (read : Succeeds (parseCall text)) :
    ClosesEnough text := by
  obtain ⟨function, inner, arguments, trimmed, unopened, parted, read⟩ :=
    exists_of_parseCall read
  have inside := (Text.trim_isInfix text).subset
  have shorter := Text.length_trim_le text
  apply ClosesEnough.ofTrim
  rw [trimmed] at inside shorter ⊢
  have functionClosed : ClosesEnough function :=
    .ofUnopened (free.subset fun c member => inside (List.mem_append_left _ member)) unopened
  have innerFree : QuoteFree inner :=
    free.subset fun c member => inside (by simp [parenthesized, member])
  have innerClosed := closesEnough_inner innerFree parted
    (fun segment bound => each segment (by
      simp only [parenthesized, List.length_append, List.length_cons] at shorter
      omega)) read
  exact functionClosed.append innerClosed.parenthesized

theorem closesEnough_of_parseArgument
    {text : Text}
    (free : QuoteFree text)
    (expression : Succeeds (parse text) → ClosesEnough text)
    (call : Succeeds (parseCall text) → ClosesEnough text)
    (read : Succeeds (parseArgument ⟨text, false⟩)) :
    ClosesEnough text := by
  rw [parseArgument] at read
  split at read
  · rename_i empty
    obtain rfl : text = [] := by simpa using empty
    exact .ofPlain (by simp)
  · split at read
    · exact expression read
    · split at read
      · exact call read
      · rename_i unopened
        exact .ofUnopened free unopened

/-- What is read without quotes closes at least as many parentheses as it opens. -/
theorem closesEnough_of_parse
    {text : Text}
    (free : QuoteFree text) :
    (Succeeds (parse text) → ClosesEnough text) ∧
      (Succeeds (parseCall text) → ClosesEnough text) := by
  induction length : text.length using Nat.strong_induction_on generalizing text with
  | _ bound inductionHypothesis =>
      subst length
      have argument (segment : Text) (shorter : segment.length < text.length)
          (segmentFree : QuoteFree segment)
          (read : Succeeds (parseArgument ⟨segment, false⟩)) :
          ClosesEnough segment := by
        have parts := inductionHypothesis _ shorter segmentFree rfl
        exact closesEnough_of_parseArgument segmentFree parts.1 parts.2 read
      refine ⟨?_, closesEnough_of_parseCall free argument⟩
      intro read
      have trimmedFree := free.subset (Text.trim_isInfix text).subset
      have shorter := Text.length_trim_le text
      apply ClosesEnough.ofTrim
      cases found : findTopLevel? (Text.trim text) alternativeToken with
      | none =>
          rw [parse_of_find_eq_none found] at read
          split at read
          · exact closesEnough_of_parseCall trimmedFree
              (fun segment bound => argument segment (by omega)) read
          · rename_i unopened
            exact .ofUnopened trimmedFree unopened
      | some place =>
          obtain ⟨left, right, parted, first⟩ :=
            exists_append_of_findTopLevel? (Option.isSome_iff_exists.2 ⟨place, found⟩)
          rw [← parse_trim, parted, parse_of_first_bars (parted ▸ first),
            Succeeds.bind_iff] at read
          obtain ⟨primary, leftRead, read⟩ := read
          rw [Succeeds.bind_pure_iff] at read
          rw [parted] at shorter trimmedFree ⊢
          simp only [alternativeToken, List.length_append, List.length_cons] at shorter
          have leftFree := trimmedFree.subset (by simp : left ⊆ left ++ alternativeToken ++ right)
          have rightFree := trimmedFree.subset (by simp : right ⊆ left ++ alternativeToken ++ right)
          have leftClosed := (inductionHypothesis _ (by omega) leftFree rfl).1 ⟨primary, leftRead⟩
          have rightClosed := (inductionHypothesis _ (by omega) rightFree rfl).1 read
          have bars : ClosesEnough alternativeToken := .ofPlain (by decide)
          exact (leftClosed.append bars).append rightClosed

/-- As many parentheses are opened as closed in a balanced text without quotes. -/
theorem count_eq_of_balanced
    {text : Text}
    (free : QuoteFree text)
    (balanced : Balanced text) :
    text.count '(' = text.count ')' := by
  have counted := free.run_eq 0
  rw [balanced.returns 0] at counted
  have depth := congrArg ScanState.depth counted
  simp only [depth_atDepth] at depth
  omega

theorem count_trim
    {mark : Char}
    (solid : Text.isBlank mark = false)
    (text : Text) :
    (Text.trim text).count mark = text.count mark := by
  obtain ⟨before, after, blankBefore, blankAfter, parted⟩ := Text.spaced_trim text
  have absent {blanks : Text} (blank : Text.AllBlank blanks) : blanks.count mark = 0 := by
    apply List.count_eq_zero.2
    intro member
    simp [blank mark member] at solid
  conv_rhs => rw [parted]
  rw [List.count_append, List.count_append, absent blankBefore, absent blankAfter]
  omega

/-- A call without quotes that closes no parenthesis more than it opens ends with its own. -/
theorem isCall_of_count_eq
    {function inner : Text}
    (free : QuoteFree function)
    (unopened : '(' ∉ function)
    (closesEnough : ClosesEnough inner)
    (same :
      (function ++ parenthesized inner).count '(' =
        (function ++ parenthesized inner).count ')') :
    IsCall (function ++ parenthesized inner) := by
  rw [List.count_append, List.count_append, count_open_parenthesized, count_close_parenthesized,
    List.count_eq_zero.2 unopened] at same
  have atLeast := closesEnough.le
  have unclosed : ')' ∉ function := List.count_eq_zero.1 (by omega)
  exact ⟨function, inner, rfl, .ofPlain (free.isPlain unopened unclosed),
    closesEnough.balanced (by omega)⟩

/-- An argument that opens no parenthesis is read, and so is every quoted one. -/
theorem succeeds_parseArgument
    {argument : Argument}
    (unread : argument.quoted ∨ '(' ∉ argument.text) :
    Succeeds (parseArgument argument) := by
  rw [parseArgument]
  split
  · exact .ok _
  · rename_i plain
    have unopened : '(' ∉ argument.text := by
      apply unread.resolve_left
      intro quoted
      simp [quoted] at plain
    split
    · exact succeeds_parse_of_noCall unopened
    · split <;> exact .ok _

/--
What is read as a call ends with a closing parenthesis, and a text with an opening one that
is not read is so for its syntax.  A text that is read is one call exactly if the name
before its first opening parenthesis shows no other and leaves no quote open, and each
segment between its commas is balanced on its own.  Without quotes it has at least as many
closing parentheses as opening ones, and is one call exactly if it has as many.
-/
theorem isCall_of_parseCall (text : Text) :
    ('(' ∈ text → ∀ fault, parseCall text = .error fault → fault ≠ .missingOpen) ∧
      (Succeeds (parseCall text) →
        ∃ function inner, Text.trim text = function ++ parenthesized inner ∧ '(' ∉ function ∧
          (IsCall (Text.trim text) ↔
            IsCallName function ∧
              ∀ segment ∈ Argument.cutAtCommas start inner, Balanced segment) ∧
          (QuoteFree text →
            text.count '(' ≤ text.count ')' ∧
              (IsCall (Text.trim text) ↔ text.count '(' = text.count ')'))) := by
  constructor
  · rintro opened fault failed rfl
    exact (opened_parse text).2 opened failed
  · intro read
    obtain ⟨function, inner, arguments, trimmed, unopened, parted, argumentsRead⟩ :=
      exists_of_parseCall read
    have closed := (Argument.split_eq_ok.1 parted).1
    refine ⟨function, inner, trimmed, unopened, ?_, ?_⟩
    · rw [trimmed, isCall_iff unopened closed, balanced_iff_cutAtCommas]
    · intro free
      have counts (mark : Char) (solid : Text.isBlank mark = false) :
          text.count mark = (function ++ parenthesized inner).count mark := by
        rw [← trimmed, count_trim solid]
      have trimmedFree : QuoteFree (function ++ parenthesized inner) :=
        trimmed ▸ free.subset (Text.trim_isInfix text).subset
      have functionFree : QuoteFree function :=
        trimmedFree.subset (List.subset_append_left function _)
      have innerFree : QuoteFree inner :=
        trimmedFree.subset fun c member => by simp [parenthesized, member]
      have closesEnough : ClosesEnough inner :=
        closesEnough_inner innerFree parted
          (fun segment _ segmentFree segmentRead =>
            have parts := closesEnough_of_parse segmentFree
            closesEnough_of_parseArgument segmentFree parts.1 parts.2 segmentRead)
          argumentsRead
      refine ⟨((closesEnough_of_parse free).2 read).le, ?_⟩
      rw [trimmed, counts '(' (by decide), counts ')' (by decide)]
      constructor
      · intro isCall
        exact count_eq_of_balanced trimmedFree isCall.balanced
      · exact isCall_of_count_eq functionFree unopened closesEnough

/-- A call is one call where an argument is a call and as many parentheses close as open. -/
theorem isCall_of_parseCall_nested :
    let text : Text := "F(G(a), b)".toList
    Succeeds (parseCall text) ∧ QuoteFree text ∧ IsCall (Text.trim text) := by
  intro text
  have word (name : Text) (unopened : '(' ∉ name) : Succeeds (parseArgument ⟨name, false⟩) :=
    succeeds_parseArgument (Or.inr unopened)
  have call : Succeeds (parseArgument ⟨"G(a)".toList, false⟩) := by
    rw [parseArgument, if_neg (by decide), if_neg (by decide), if_pos (by decide)]
    have parted : Argument.split "a".toList = .ok [⟨"a".toList, false⟩] := by rfl
    exact succeeds_parseCall (by decide) (by decide : Text.trim ("G".toList ++ _) = _) parted
      (List.forall_mem_singleton.2 (word _ (by decide)))
  have read : Succeeds (parseCall text) := by
    have parted :
        Argument.split "G(a), b".toList =
          .ok [⟨"G(a)".toList, false⟩, ⟨"b".toList, false⟩] := by rfl
    exact succeeds_parseCall (by decide) (by decide : Text.trim ("F".toList ++ _) = _) parted
      (List.forall_mem_cons.2 ⟨call, List.forall_mem_singleton.2 (word _ (by decide))⟩)
  have free : QuoteFree text := by decide
  obtain ⟨function, inner, -, -, -, counted⟩ := (isCall_of_parseCall text).2 read
  exact ⟨read, free, (counted free).2.2 (by decide)⟩

/-- A stray closing parenthesis is read, and so is more behind a call if it is quoted. -/
theorem parseCall_of_stray :
    let stray : Text := "A(b))".toList
    let followed : Text := "A(b), \"x\" (c)".toList
    (Succeeds (parseCall stray) ∧ ¬ IsCall (Text.trim stray)) ∧
      Succeeds (parseCall followed) ∧ ¬ IsCall (Text.trim followed) := by
  have fails (inner : Text) (closed : (start.run inner).quote = none)
      (unbalanced : ¬ Balanced inner) : ¬ IsCall ("A".toList ++ parenthesized inner) := by
    rw [isCall_iff (by decide) closed]
    exact fun both => unbalanced both.2
  refine ⟨⟨?_, fails "b)".toList (by decide) (by decide)⟩, ?_,
    fails "b), \"x\" (c".toList (by decide) (by decide)⟩
  · have parted : Argument.split "b)".toList = .ok [⟨"b)".toList, false⟩] := by rfl
    exact succeeds_parseCall (by decide) (by decide : Text.trim ("A".toList ++ _) = _) parted
      (List.forall_mem_singleton.2 (succeeds_parseArgument (Or.inr (by decide))))
  · have parted :
        Argument.split "b), \"x\" (c".toList = .ok [⟨"b), x (c".toList, true⟩] := by rfl
    exact succeeds_parseCall (by decide) (by decide : Text.trim ("A".toList ++ _) = _) parted
      (List.forall_mem_singleton.2 (succeeds_parseArgument (Or.inl rfl)))

end Expr
end LabelPress
