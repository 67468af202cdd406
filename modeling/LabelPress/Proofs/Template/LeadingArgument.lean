import LabelPress.Proofs.Template.QuotedArguments

/-!
# An argument before quoted texts

A call whose first argument is any other one and whose further arguments are quoted texts.
Main statements: the function is given the value of the first argument and the texts as they
are, and the call is the body of a span.
-/

namespace LabelPress

open ScanState

namespace Expr

/-- A text that is read as an argument with others behind it, inside of a span. -/
structure IsArgument
    (tree : Expr)
    (text : Text) : Prop where
  balanced : Balanced text
  hidden : Hides ',' start text
  reads : Reads (.argument tree) text
  oneLine : '\n' ∉ text
  unbraced : '\x7d' ∉ text

/-- A text without marks is an argument that names a column. -/
theorem IsArgument.ofMarkFree
    {text : Text}
    (free : MarkFree text)
    (nonempty : text ≠ [])
    (unnumbered : parseNumber? text = none)
    (trimmed : Text.trim text = text)
    (oneLine : '\n' ∉ text)
    (unbraced : '\x7d' ∉ text) :
    IsArgument (.column text (some text)) text where
  balanced := free.balanced
  hidden := free.shows.hides rfl
  reads := markFree_reads free nonempty unnumbered trimmed (.refl text)
  oneLine := oneLine
  unbraced := unbraced

theorem IsArgument.ofWord
    {word : Text}
    (isWord : IsWord word)
    (unnumbered : parseNumber? word = none) :
    IsArgument (.column word (some word)) word :=
  .ofMarkFree isWord.markFree isWord.1 unnumbered isWord.trim_eq
    (Template.newline_not_mem_of_isWord isWord) isWord.not_mem_closeBrace

/-- Plain text with a quoted text behind it is an argument, a literal of both together. -/
theorem IsArgument.ofQuoted
    {front value core : Text}
    (free : MarkFree front)
    (starts : Text.trimLeft front = front)
    (quoted : Quoted value core)
    (oneLine : '\n' ∉ front ++ core)
    (unbraced : '\x7d' ∉ front ++ core) :
    IsArgument (.literal (front ++ value)) (front ++ core) where
  balanced := free.balanced.append quoted.balanced
  hidden := by
    refine (along_append _ _ _).2 ⟨free.shows.hides rfl, ?_⟩
    rw [free.balanced.run_start]
    exact quoted.hides (by decide)
  reads := by
    have noBlank : Text.AllBlank [] := by decide
    have made := Argument.ofText_append_quoted free.isPlain quoted noBlank
    rw [List.append_nil, starts] at made
    simp only [Reads]
    rw [made]
    exact ⟨parseArgument_of_quoted _, by simp⟩
  oneLine := oneLine
  unbraced := unbraced

/-- A call with an argument in front of quoted texts. -/
def leadingCall
    (quote : Char)
    (function argument : Text)
    (texts : List Text) : Text :=
  function ++ parenthesized (argument ++ ',' :: ([' '] ++ quotedArguments quote texts))

example :
    leadingCall '\x22' Builtin.choose.name "a".toList ["b".toList, "c".toList] =
      "SI(a, \"b\", \"c\")".toList := by
  decide

section
variable {row : Row} {context : Context} {quote : Char} {function argument text : Text}
  {others : List Text} {tree : Expr}

theorem parse_leadingCall
    (named : IsFunctionName function)
    (isArgument : IsArgument tree argument)
    (quoting : isQuote quote)
    (free : ∀ content ∈ text :: others, quote ∉ content) :
    parse (leadingCall quote function argument (text :: others)) =
      .ok (.call function (tree :: (text :: others).map .literal)) := by
  have blank : Text.AllBlank [' '] := by decide
  have noGap : Text.AllBlank [] := by decide
  have comma : Balanced [','] := .ofPlain (by decide)
  have written := written_quotedArguments quoting free blank
  have balanced := isArgument.balanced.append (comma.append written.balanced)
  apply parse_of_call named noGap balanced
  · exact more_reads isArgument.balanced isArgument.hidden isArgument.reads written.reads
  · rw [List.append_nil]
    exact .refl _

/-- A function is given the value of its first argument and the texts between the quotes. -/
theorem outcome_leadingCall
    (named : IsFunctionName function)
    (isArgument : IsArgument tree argument)
    (quoting : isQuote quote)
    (free : ∀ content ∈ text :: others, quote ∉ content) :
    outcome row context (leadingCall quote function argument (text :: others)) =
      (tree.eval row context >>= fun value =>
        callFunction function (value :: text :: others) row context) := by
  rw [outcome, parse_leadingCall named isArgument quoting free]
  change (evalAll row context (tree :: (text :: others).map .literal) >>= fun arguments =>
    callFunction function arguments row context) = _
  rw [evalAll, evalAll_literals]
  cases tree.eval row context <;> rfl

end
end Expr

namespace Template

open LabelPress.Expr

/-- A text that quotes and a span can hold. -/
structure Quotable
    (quote : Char)
    (text : Text) : Prop where
  free : quote ∉ text
  oneLine : '\n' ∉ text
  unclosed : ¬ closing <:+: text

instance (quote : Char) (text : Text) : Decidable (Quotable quote text) :=
  decidable_of_iff (quote ∉ text ∧ '\n' ∉ text ∧ ¬ closing <:+: text)
    ⟨fun ⟨free, oneLine, unclosed⟩ => ⟨free, oneLine, unclosed⟩,
      fun quotable => ⟨quotable.free, quotable.oneLine, quotable.unclosed⟩⟩

theorem isBody_leadingCall
    {quote : Char}
    {function argument : Text}
    {texts : List Text}
    (named : IsFunctionName function)
    (argumentLine : '\n' ∉ argument)
    (unbraced : closeBrace ∉ argument)
    (quoting : isQuote quote)
    (oneLine : ∀ text ∈ texts, '\n' ∉ text)
    (unclosed : ∀ text ∈ texts, ¬ closing <:+: text) :
    IsBody (leadingCall quote function argument texts) := by
  have textsLine := newline_not_mem_quotedArguments quoting oneLine
  have textsUnclosed : ¬ closing <:+: quotedArguments quote texts := by
    rw [closing_isInfix_quotedArguments quoting]
    rintro ⟨text, member, closes⟩
    exact unclosed text member closes
  have split :
      leadingCall quote function argument texts =
        (function ++ '(' :: (argument ++ [',', ' '])) ++
          (quotedArguments quote texts ++ [')']) := by
    simp [leadingCall, parenthesized]
  rw [split]
  apply isBody_append
  · exact List.append_ne_nil_of_left_ne_nil named.1 _
  · simp [newline_not_mem_of_isWord named.isName.isWord, argumentLine]
  · have nameBrace : closeBrace ∉ function := named.isName.isWord.not_mem_closeBrace
    have marks : closeBrace ∉ ['(', ',', ' '] := by decide
    simp_all
  · simp [textsLine]
  · exact fun found => textsUnclosed (pair_isInfix_left (by decide) found)
  · rw [List.getLast?_concat]
    decide

end Template
end LabelPress
