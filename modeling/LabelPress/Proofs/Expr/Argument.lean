import LabelPress.Expr.Argument
import LabelPress.Proofs.Expr.Scan

/-!
# Arguments cut and trimmed

What the cut at commas and the parting at quotes do to a text that is put together from
parts.  Main statements: a text that hides its commas is one segment, a text without
quotes at the top level is an argument that only loses its outer blanks, and quoted
pieces written next to each other denote their contents together.
-/

namespace LabelPress

open ScanState

/--
A text written as adjacent quoted pieces, each between two equal quote characters that
it does not contain.
-/
inductive Quoted : Text → Text → Prop where
  /-- The last piece. -/
  | last
      {quote : Char}
      {content : Text}
      (isQuote : isQuote quote)
      (free : quote ∉ content) :
      Quoted content (quote :: content ++ [quote])
  /-- A piece before others. -/
  | more
      {quote : Char}
      {content value written : Text}
      (isQuote : isQuote quote)
      (free : quote ∉ content)
      (others : Quoted value written) :
      Quoted (content ++ value) ((quote :: content ++ [quote]) ++ written)

/-- The two quote characters are different, so together they can write every character. -/
theorem exists_isQuote_ne (c : Char) :
    ∃ quote, isQuote quote ∧ c ≠ quote := by
  by_cases double : c = '\x22'
  · exact ⟨'\x27', by decide, by rw [double]; decide⟩
  · exact ⟨'\x22', by decide, double⟩

/-- Every text can be written as adjacent quoted pieces. -/
theorem exists_quoted (value : Text) :
    ∃ written, Quoted value written := by
  induction value with
  | nil =>
      obtain ⟨quote, isQuote, _⟩ := exists_isQuote_ne ' '
      exact ⟨_, .last isQuote List.not_mem_nil⟩
  | cons c rest inductionHypothesis =>
      obtain ⟨written, others⟩ := inductionHypothesis
      obtain ⟨quote, isQuote, different⟩ := exists_isQuote_ne c
      have free : quote ∉ [c] := by simpa using Ne.symm different
      exact ⟨_, .more isQuote free others⟩

/-- Quoted pieces are balanced. -/
theorem Quoted.balanced
    {value written : Text}
    (quoted : Quoted value written) :
    Balanced written := by
  induction quoted with
  | last isQuote free => exact .quoted isQuote free
  | more isQuote free _ inductionHypothesis =>
      exact (Balanced.quoted isQuote free).append inductionHypothesis

/-- Quoted pieces hide every character but quotes. -/
theorem Quoted.hides
    {c : Char}
    {value written : Text}
    (quoted : Quoted value written)
    (plain : LabelPress.isQuote c = false) :
    Hides c start written := by
  induction quoted with
  | last isQuote free => exact hides_quoted isQuote free (ne_of_isQuote isQuote plain)
  | more isQuote free _ inductionHypothesis =>
      refine (along_append _ _ _).2
        ⟨hides_quoted isQuote free (ne_of_isQuote isQuote plain), ?_⟩
      rw [(Balanced.quoted isQuote free).run_start]
      exact inductionHypothesis

namespace Argument

/-- A character that is no top-level comma joins its segment. -/
theorem cutAtCommas_cons
    {state : ScanState}
    {c : Char}
    (different : state.isTop → c ≠ ',')
    (rest : Text) :
    cutAtCommas state (c :: rest) = consFirst c (cutAtCommas (state.next c) rest) := by
  rw [cutAtCommas, if_neg]
  intro found
  simp only [Bool.and_eq_true, beq_iff_eq] at found
  exact different found.1 found.2

/-- A text that hides its commas is one segment. -/
theorem cutAtCommas_of_hides
    {state : ScanState}
    {text : Text}
    (hidden : Hides ',' state text) :
    cutAtCommas state text = [text] := by
  induction text generalizing state with
  | nil => rfl
  | cons c rest inductionHypothesis =>
      obtain ⟨different, hiddenRest⟩ := hidden
      rw [cutAtCommas_cons different, inductionHypothesis hiddenRest]
      rfl

/-- A comma at the top level ends a segment. -/
theorem cutAtCommas_append_comma
    {state : ScanState}
    {left : Text}
    (hidden : Hides ',' state left)
    (closed : (state.run left).isTop)
    (rest : Text) :
    cutAtCommas state (left ++ ',' :: rest) = left :: cutAtCommas .start rest := by
  induction left generalizing state with
  | nil =>
      rw [run_nil] at closed
      simp [cutAtCommas, closed]
  | cons c others inductionHypothesis =>
      obtain ⟨different, hiddenRest⟩ := hidden
      rw [List.cons_append, cutAtCommas_cons different,
        inductionHypothesis hiddenRest closed]
      rfl

/-- A cut at commas always leaves a segment. -/
theorem cutAtCommas_ne_nil
    (state : ScanState)
    (text : Text) :
    cutAtCommas state text ≠ [] := by
  cases text with
  | nil => simp [cutAtCommas]
  | cons c rest =>
      rw [cutAtCommas]
      split
      · simp
      · unfold consFirst
        split <;> simp

/-- Joined pieces lose the outer blanks of the first and of the last one. -/
theorem ofPieces_between
    (first last : Piece)
    (middle : List Piece) :
    ofPieces (first :: middle ++ [last]) =
      ⟨Text.trimLeft first.text ++ middle.flatMap Piece.text ++ Text.trimRight last.text,
        first.quoted || middle.any Piece.quoted || last.quoted⟩ := by
  simp [ofPieces, modifyLast, Bool.or_assoc]

/-- A piece that is alone loses its outer blanks. -/
theorem ofPieces_singleton (piece : Piece) :
    ofPieces [piece] = ⟨Text.trim piece.text, piece.quoted⟩ := by
  simp [ofPieces, modifyLast, Text.trim]

/-- Outside parentheses there are no quotes. -/
def Unquoted : ScanState → Text → Prop :=
  Along fun state c => 0 < state.depth ∨ state.quote = none ∧ isQuote c = false

instance
    (state : ScanState)
    (text : Text) :
    Decidable (Unquoted state text) :=
  inferInstanceAs (Decidable (Along _ state text))

/-- A text that shows no quotes has none outside parentheses. -/
theorem Unquoted.ofShows
    {allowed : Char → Bool}
    {text : Text}
    (shows : Shows allowed start text)
    (plain : ∀ c, allowed c → isQuote c = false) :
    Unquoted start text := by
  refine Along.mono shows ?_
  rintro state c (above | ⟨rfl, shown⟩)
  · exact Or.inl above
  · exact Or.inr ⟨rfl, plain c shown⟩

/-- Characters in front of a text that are not quotes join its first piece. -/
theorem pieces_append_of_unquoted
    {state : ScanState}
    {left right : Text}
    {first : Piece}
    {others : List Piece}
    (unquoted : Unquoted state left)
    (parted : pieces (state.run left) right = first :: others) :
    pieces state (left ++ right) = { first with text := left ++ first.text } :: others := by
  induction left generalizing state with
  | nil => exact parted
  | cons c rest inductionHypothesis =>
      obtain ⟨here, unquotedRest⟩ := unquoted
      have joined :
          ¬(state.quote.isSome != (state.next c).quote.isSome && state.depth ≤ 0) := by
        rcases here with above | ⟨outside, plain⟩
        · simp [above]
        · simp [outside, quote_next_of_isQuote_eq_false outside plain]
      rw [List.cons_append, pieces, if_neg joined, inductionHypothesis unquotedRest parted]
      rfl

/-- A text without quotes at the top level is one piece. -/
theorem pieces_of_unquoted
    {state : ScanState}
    {text : Text}
    (unquoted : Unquoted state text) :
    pieces state text = [⟨text, false⟩] := by
  have nothing : pieces (state.run text) [] = [⟨[], false⟩] := rfl
  have parted := pieces_append_of_unquoted unquoted nothing
  simpa using parted

/-- A text without quotes at the top level is an argument without its outer blanks. -/
theorem ofText_of_unquoted
    {text : Text}
    (unquoted : Unquoted start text) :
    ofText text = ⟨Text.trim text, false⟩ := by
  rw [ofText, pieces_of_unquoted unquoted, ofPieces_singleton]

/-- What stands between quotes is a piece of its own. -/
theorem pieces_quoted
    {quote : Char}
    {content : Text}
    (free : quote ∉ content)
    (rest : Text) :
    pieces ⟨some quote, 0⟩ (content ++ quote :: rest) =
      ⟨content, true⟩ :: pieces start rest := by
  induction content with
  | nil => simp [pieces, next_self_quote, start_eq_atDepth]
  | cons c others inductionHypothesis =>
      simp only [List.mem_cons, not_or] at free
      have inside := next_of_ne_quote (Ne.symm free.1) 0
      rw [List.cons_append, pieces, inside, if_neg (by simp), inductionHypothesis free.2]
      rfl

/-- A quoted piece at the top level ends the piece in front of it. -/
theorem pieces_quote_cons
    {quote : Char}
    {content : Text}
    (isQuote : isQuote quote)
    (free : quote ∉ content)
    (rest : Text) :
    pieces start ((quote :: content ++ [quote]) ++ rest) =
      ⟨[], false⟩ :: ⟨content, true⟩ :: pieces start rest := by
  have opened := next_atDepth_of_isQuote isQuote 0
  simp only [List.cons_append, List.append_assoc, List.nil_append]
  rw [pieces, start_eq_atDepth, opened, pieces_quoted free]
  simp [start_eq_atDepth]

/-- Quoted pieces before blanks are parted into their contents. -/
theorem exists_pieces_of_quoted
    {value written : Text}
    (quoted : Quoted value written)
    {after : Text}
    (unquoted : Unquoted start after) :
    ∃ middle, pieces start (written ++ after) = ⟨[], false⟩ :: middle ++ [⟨after, false⟩] ∧
      middle.flatMap Piece.text = value ∧ middle.any Piece.quoted := by
  induction quoted with
  | @last quote content isQuote free =>
      refine ⟨[⟨content, true⟩], ?_, by simp, by simp⟩
      rw [pieces_quote_cons isQuote free, pieces_of_unquoted unquoted]
      rfl
  | @more quote content value written isQuote free _ inductionHypothesis =>
      obtain ⟨middle, parted, joined, _⟩ := inductionHypothesis
      refine ⟨⟨content, true⟩ :: ⟨[], false⟩ :: middle, ?_, by simp [joined], by simp⟩
      rw [List.append_assoc, pieces_quote_cons isQuote free, parted]
      rfl

/-- Plain characters are not quotes. -/
theorem unquoted_of_isPlain
    {text : Text}
    (plain : ∀ c ∈ text, isPlain c) :
    Unquoted start text := by
  refine along_atDepth_of_isPlain plain ?_
  intro c member
  exact Or.inr ⟨rfl, isQuote_eq_false_of_isPlain (plain c member)⟩

/-- Quoted pieces behind plain text are joined to it, without the blanks in front of it. -/
theorem ofText_append_quoted
    {front value core after : Text}
    (plain : ∀ c ∈ front, isPlain c)
    (quoted : Quoted value core)
    (blankAfter : Text.AllBlank after) :
    ofText (front ++ core ++ after) = ⟨Text.trimLeft front ++ value, true⟩ := by
  obtain ⟨middle, parted, joined, marked⟩ :=
    exists_pieces_of_quoted quoted (unquoted_of_isPlain (isPlain_of_allBlank blankAfter))
  have returns : start.run front = start := run_atDepth_of_isPlain plain 0
  have first :
      pieces start (front ++ (core ++ after)) = ⟨front, false⟩ :: middle ++ [⟨after, false⟩] := by
    rw [← returns, List.cons_append] at parted
    rw [pieces_append_of_unquoted (unquoted_of_isPlain plain) parted]
    simp
  rw [List.append_assoc, ofText, first, ofPieces_between, Text.trimRight_of_allBlank blankAfter]
  simp [joined, marked]

/-- Quoted pieces between blanks denote their contents together. -/
theorem ofText_of_quoted
    {value core text : Text}
    (quoted : Quoted value core)
    (spaced : Text.Spaced core text) :
    ofText text = ⟨value, true⟩ := by
  obtain ⟨before, after, blankBefore, blankAfter, rfl⟩ := spaced
  rw [ofText_append_quoted (isPlain_of_allBlank blankBefore) quoted blankAfter,
    Text.trimLeft_of_allBlank blankBefore, List.nil_append]

theorem pieces_ne_nil
    (state : ScanState)
    (text : Text) :
    pieces state text ≠ [] := by
  cases text with
  | nil => exact List.cons_ne_nil _ _
  | cons c rest =>
      rw [pieces]
      split
      · exact List.cons_ne_nil _ _
      · unfold consPiece
        split <;> exact List.cons_ne_nil _ _

/-- Blanks in front of an argument are no part of it. -/
theorem ofText_append_left
    {before : Text}
    (blank : Text.AllBlank before)
    (text : Text) :
    ofText (before ++ text) = ofText text := by
  have unquoted := unquoted_of_isPlain (isPlain_of_allBlank blank)
  obtain ⟨first, others, parted⟩ := List.exists_cons_of_ne_nil (pieces_ne_nil start text)
  have joined : pieces (start.run before) text = first :: others := by
    rw [run_of_allBlank blank, parted]
  rw [ofText, ofText, pieces_append_of_unquoted unquoted joined, parted]
  simp only [ofPieces, List.modifyHead_cons, Text.trimLeft_append_of_allBlank blank,
    List.any_cons]

/-- Blanks in front of all arguments are no part of the first one. -/
theorem cutAtCommas_append_left
    {before : Text}
    (blank : Text.AllBlank before)
    (inner : Text) :
    (cutAtCommas start (before ++ inner)).map ofText = (cutAtCommas start inner).map ofText := by
  induction before with
  | nil => rfl
  | cons c before inductionHypothesis =>
      have plain := isPlain_of_allBlank blank c List.mem_cons_self
      have unseparated : ',' ∉ c :: before := blank.not_mem (by decide)
      rw [Text.AllBlank, List.forall_mem_cons] at blank
      have alone : Text.AllBlank [c] := by simpa [Text.AllBlank] using blank.1
      have different : c ≠ ',' := fun same => unseparated (by simp [same])
      have stays : start.next c = start := next_atDepth_of_isPlain plain 0
      obtain ⟨first, others, cut⟩ :=
        List.exists_cons_of_ne_nil (cutAtCommas_ne_nil start (before ++ inner))
      have same : ofText (c :: first) = ofText first := ofText_append_left alone first
      rw [List.cons_append, cutAtCommas_cons fun _ => different, stays,
        ← inductionHypothesis blank.2, cut, consFirst, List.map_cons, List.map_cons, same]

/-- A single argument is kept unless it is empty and not quoted. -/
theorem dropEmptyLast_singleton
    {argument : Argument}
    (kept : argument ≠ ⟨[], false⟩) :
    dropEmptyLast [argument] = [argument] := by
  simp [dropEmptyLast, kept]

theorem dropEmptyLast_cons
    (argument : Argument)
    {others : List Argument}
    (nonempty : others ≠ []) :
    dropEmptyLast (argument :: others) = argument :: dropEmptyLast others := by
  obtain ⟨second, rest, rfl⟩ := List.exists_cons_of_ne_nil nonempty
  simp only [dropEmptyLast, List.getLast?_cons_cons, List.dropLast_cons_cons]
  split <;> rfl

end Argument
end LabelPress
