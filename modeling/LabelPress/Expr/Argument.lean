import LabelPress.Expr.Scan

/-!
# Arguments of a call

The text between the parentheses of a call is cut at its top-level commas.  Quotes at
the top level of an argument are taken off, and blanks are removed from its ends but
not from inside its quotes.  Main statement: no argument is longer than the text that
it was cut from.
-/

namespace LabelPress

/-- One argument of a call as text. -/
structure Argument where
  /-- The text without its top-level quotes. -/
  text : Text
  /-- The argument has a quoted piece, so it stands for itself. -/
  quoted : Bool
deriving DecidableEq

namespace Argument

/-- Put a character in front of the first text of a list. -/
def consFirst
    (c : Char) : List Text → List Text
  | [] => [[c]]
  | first :: others => (c :: first) :: others

/-- Cut a text at its top-level commas. -/
def cutAtCommas : ScanState → Text → List Text
  | _, [] => [[]]
  | state, c :: rest =>
      if state.isTop && c == ',' then
        [] :: cutAtCommas .start rest
      else
        consFirst c (cutAtCommas (state.next c) rest)

/-- A part of an argument that lies inside or outside its top-level quotes. -/
structure Piece where
  /-- The characters of the part. -/
  text : Text
  /-- The part stood between quotes. -/
  quoted : Bool

/-- Put a character in front of the first of a list of pieces. -/
def consPiece
    (c : Char) : List Piece → List Piece
  | [] => [⟨[c], false⟩]
  | first :: others => { first with text := c :: first.text } :: others

/--
Part an argument at its quotes.  Quotes inside parentheses belong to a nested call
and stay where they are.
-/
def pieces : ScanState → Text → List Piece
  | _, [] => [⟨[], false⟩]
  | state, c :: rest =>
      let after := state.next c
      if state.quote.isSome != after.quote.isSome && state.depth ≤ 0 then
        ⟨[], state.quote.isSome⟩ :: pieces after rest
      else
        consPiece c (pieces after rest)

/-- Change the last piece of a list. -/
def modifyLast
    (change : Piece → Piece)
    (pieces : List Piece) : List Piece :=
  (pieces.reverse.modifyHead change).reverse

/--
Join the pieces of an argument.  The first and the last piece lie outside quotes;
they lose their outer blanks.
-/
def ofPieces (pieces : List Piece) : Argument :=
  let trimmed :=
    modifyLast (fun piece => { piece with text := Text.trimRight piece.text })
      (pieces.modifyHead fun piece => { piece with text := Text.trimLeft piece.text })
  ⟨trimmed.flatMap Piece.text, pieces.any Piece.quoted⟩

/-- The argument that a text between commas denotes. -/
def ofText (text : Text) : Argument :=
  ofPieces (pieces .start text)

/-- Leave out a last argument that is empty and not quoted. -/
def dropEmptyLast (arguments : List Argument) : List Argument :=
  if arguments.getLast? = some ⟨[], false⟩ then
    arguments.dropLast
  else
    arguments

/-- The arguments that the text between the parentheses of a call denotes. -/
def split (inner : Text) : Except SyntaxFault (List Argument) :=
  if (ScanState.start.run inner).quote.isSome then
    .error (.unclosedQuote inner)
  else
    .ok (dropEmptyLast ((cutAtCommas .start inner).map ofText))

/-- The characters of a list of pieces together. -/
theorem length_flatMap_consPiece
    (c : Char)
    (pieces : List Piece) :
    ((consPiece c pieces).flatMap Piece.text).length =
      (pieces.flatMap Piece.text).length + 1 := by
  cases pieces with
  | nil => simp [consPiece]
  | cons first others => simp [consPiece, Nat.add_right_comm]

/-- The pieces of an argument hold no more characters than it has. -/
theorem length_pieces_le
    (state : ScanState)
    (text : Text) :
    ((pieces state text).flatMap Piece.text).length ≤ text.length := by
  induction text generalizing state with
  | nil => simp [pieces]
  | cons c rest inductionHypothesis =>
      rw [pieces]
      split
      · simpa using Nat.le_succ_of_le (inductionHypothesis (state.next c))
      · rw [length_flatMap_consPiece]
        simpa using inductionHypothesis (state.next c)

/-- Shortening the first piece shortens the whole. -/
theorem length_modifyHead_le
    (change : Piece → Piece)
    (shortens : ∀ piece, (change piece).text.length ≤ piece.text.length)
    (pieces : List Piece) :
    ((pieces.modifyHead change).flatMap Piece.text).length ≤
      (pieces.flatMap Piece.text).length := by
  cases pieces with
  | nil => simp
  | cons first others => simpa using shortens first

/-- The characters of a list of pieces do not depend on the order of the pieces. -/
theorem length_flatMap_reverse (pieces : List Piece) :
    (pieces.reverse.flatMap Piece.text).length = (pieces.flatMap Piece.text).length := by
  induction pieces with
  | nil => simp
  | cons first others inductionHypothesis =>
      simp [List.flatMap_append, inductionHypothesis, Nat.add_comm]

/-- Shortening the last piece shortens the whole. -/
theorem length_modifyLast_le
    (change : Piece → Piece)
    (shortens : ∀ piece, (change piece).text.length ≤ piece.text.length)
    (pieces : List Piece) :
    ((modifyLast change pieces).flatMap Piece.text).length ≤
      (pieces.flatMap Piece.text).length := by
  rw [modifyLast, length_flatMap_reverse, ← length_flatMap_reverse pieces]
  exact length_modifyHead_le change shortens pieces.reverse

/-- An argument is no longer than the text that denotes it. -/
theorem length_ofText_le (text : Text) :
    (ofText text).text.length ≤ text.length := by
  refine Nat.le_trans ?_ (length_pieces_le .start text)
  refine Nat.le_trans
    (length_modifyLast_le _ (fun piece => Text.length_trimRight_le piece.text) _) ?_
  exact length_modifyHead_le _ (fun piece => Text.length_trimLeft_le piece.text) _

/-- No text between commas is longer than the whole. -/
theorem length_le_of_mem_cutAtCommas
    {state : ScanState}
    {text segment : Text}
    (member : segment ∈ cutAtCommas state text) :
    segment.length ≤ text.length := by
  induction text generalizing state segment with
  | nil => simp_all [cutAtCommas]
  | cons c rest inductionHypothesis =>
      rw [cutAtCommas] at member
      split at member
      · rcases List.mem_cons.1 member with rfl | later
        · simp
        · exact Nat.le_succ_of_le (inductionHypothesis later)
      · revert member
        cases cut : cutAtCommas (state.next c) rest with
        | nil =>
            intro member
            simp_all [consFirst]
        | cons first others =>
            intro member
            rcases List.mem_cons.1 member with rfl | later
            · have bound : first.length ≤ rest.length :=
                inductionHypothesis (cut ▸ List.mem_cons_self)
              simpa using bound
            · exact Nat.le_succ_of_le
                (inductionHypothesis (cut ▸ List.mem_cons_of_mem _ later))

/-- Leaving out the last argument adds none. -/
theorem mem_of_mem_dropEmptyLast
    {argument : Argument}
    {arguments : List Argument}
    (member : argument ∈ dropEmptyLast arguments) :
    argument ∈ arguments := by
  rw [dropEmptyLast] at member
  split at member
  · exact (List.dropLast_sublist arguments).subset member
  · exact member

/-- No argument is longer than the text between the parentheses. -/
theorem length_le_of_split
    {inner : Text}
    {arguments : List Argument}
    {argument : Argument}
    (parted : split inner = .ok arguments)
    (member : argument ∈ arguments) :
    argument.text.length ≤ inner.length := by
  rw [split] at parted
  split at parted
  · cases parted
  · cases parted
    obtain ⟨segment, segment_mem, rfl⟩ :=
      List.mem_map.1 (mem_of_mem_dropEmptyLast member)
    exact Nat.le_trans (length_ofText_le segment)
      (length_le_of_mem_cutAtCommas segment_mem)

end Argument
end LabelPress
