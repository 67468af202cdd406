import LabelPress.Proofs.Expr.Commas
import LabelPress.Proofs.Expr.Embedding
import Mathlib.Data.List.Forall2

/-!
# The recursion of reading

Expressions, calls and arguments are read by one recursion.  Its step is written down here
apart from the recursion, so that one can count how often it is taken and change how the
arguments of a call are cut.  Main statement: reading ends after a number of nested steps
that the length of the text bounds, in a fault or in a tree with at most one node more than
the text has characters.

The arguments of a call, joined with commas, are no longer than the text between its
parentheses.  So every character and every comma there pays for a node below the call, and
the parentheses pay for the call itself.
-/

namespace LabelPress

namespace Argument

/-! ## Arguments and their lengths -/

/-- The arguments of a call with a number of empty ones behind them. -/
def splitPadded
    (extra : Text → Nat)
    (inner : Text) : Except SyntaxFault (List Argument) :=
  (split inner).map fun arguments => arguments ++ List.replicate (extra inner) ⟨[], false⟩

theorem splitPadded_zero : splitPadded (fun _ => 0) = split := by
  funext inner
  rw [splitPadded]
  cases split inner with
  | error fault => rfl
  | ok arguments => simp [Except.map]

/-- The arguments with a separator between each two are no longer than the text. -/
theorem length_join_le_of_split
    {inner : Text}
    {arguments : List Argument}
    (parted : split inner = .ok arguments) :
    (Text.join [','] (arguments.map text)).length ≤ inner.length := by
  obtain ⟨-, rfl⟩ := split_eq_ok.1 parted
  have kept (arguments : List Argument) :
      (Text.join [','] ((dropEmptyLast arguments).map text)).length ≤
        (Text.join [','] (arguments.map text)).length := by
    rw [dropEmptyLast]
    split
    · rw [List.map_dropLast]
      exact Text.length_join_dropLast_le _ _
    · exact Nat.le_refl _
  calc (Text.join [','] ((dropEmptyLast ((cutAtCommas .start inner).map ofText)).map text)).length
      ≤ (Text.join [','] (((cutAtCommas .start inner).map ofText).map text)).length := kept _
    _ ≤ (Text.join [','] (cutAtCommas .start inner)).length := by
        rw [List.map_map]
        exact Text.length_join_map_le [','] length_ofText_le _
    _ = inner.length := by rw [join_cutAtCommas]

end Argument

namespace Expr

/-! ## One step of reading -/

/-- What is read in one step: an expression, a call or an argument of a call. -/
inductive Reading where
  /-- An expression. -/
  | expression (text : Text)
  /-- A call. -/
  | call (text : Text)
  /-- An argument of a call. -/
  | argument (given : Argument)

/-- What may end in a fault or in a value, and may also not end. -/
abbrev Attempt (α : Type) : Type :=
  ExceptT SyntaxFault Option α

namespace Attempt

/-- An attempt that ends. -/
def ended {α : Type} (outcome : Except SyntaxFault α) : Attempt α :=
  ExceptT.mk (some outcome)

/-- An attempt that does not end. -/
def unended {α : Type} : Attempt α :=
  ExceptT.mk none

end Attempt

namespace Reading

/-- The text that is read. -/
def text : Reading → Text
  | expression text => text
  | call text => text
  | argument given => given.text

/-- What reading comes to. -/
def read : Reading → Except SyntaxFault Expr
  | expression text => parse text
  | call text => parseCall text
  | argument given => parseArgument given

/-- One step of reading, in which the parts are left to another reader. -/
def step
    (cut : Text → Except SyntaxFault (List Argument))
    (reader : Reading → Attempt Expr) : Reading → Attempt Expr
  | expression text =>
      let trimmed := Text.trim text
      match findTopLevel? trimmed alternativeToken with
      | some place => do
          let alternativeText := Text.trim (trimmed.drop (place + 2))
          let primary ← reader (expression (Text.trim (trimmed.take place)))
          let alternative ← reader (expression alternativeText)
          return .otherwise primary alternative alternativeText
      | none =>
          if '(' ∈ trimmed then
            reader (call trimmed)
          else
            return .column trimmed none
  | call text => do
      let parts ← Attempt.ended (CallText.ofText (Text.trim text))
      let arguments ← Attempt.ended (cut parts.inner)
      let nodes ← arguments.mapM fun argument => reader (.argument argument)
      return .call (Text.upper (Text.trim parts.function)) nodes
  | argument given =>
      if given.quoted || given.text.isEmpty then
        return .literal given.text
      else if (findTopLevel? given.text alternativeToken).isSome then
        reader (expression given.text)
      else if '(' ∈ given.text then
        reader (call given.text)
      else if (parseNumber? given.text).isSome then
        return .literal given.text
      else
        return .column given.text (some given.text)

/-- Reading with at most a number of nested steps. -/
def readWithin
    (cut : Text → Except SyntaxFault (List Argument)) : Nat → Reading → Attempt Expr
  | 0, _ => Attempt.unended
  | bound + 1, reading => reading.step cut (readWithin cut bound)

/--
How many nested steps are enough.  The text of a part is shorter, or it is the same and the
part is of a kind that is read later.
-/
def depth : Reading → Nat
  | call text => 3 * text.length
  | expression text => 3 * text.length + 1
  | argument given => 3 * given.text.length + 2

end Reading

/-! ## Attempts that end -/

/-- An attempt that ends as another outcome does, with the same fault or a related value. -/
inductive EndsLike
    {α β : Type}
    (related : α → β → Prop) : Attempt α → Except SyntaxFault β → Prop where
  /-- Both come to a value. -/
  | ok
      {value : α}
      {other : β}
      (same : related value other) :
      EndsLike related (Attempt.ended (.ok value)) (.ok other)
  /-- Both come to the same fault. -/
  | error (fault : SyntaxFault) :
      EndsLike related (Attempt.ended (.error fault)) (.error fault)

namespace EndsLike

section
variable {α β : Type} {related : α → β → Prop} {attempt : Attempt α}
  {outcome : Except SyntaxFault β}

theorem bind
    {γ δ : Type}
    {relatedNext : γ → δ → Prop}
    {next : α → Attempt γ}
    {nextOutcome : β → Except SyntaxFault δ}
    (ends : EndsLike related attempt outcome)
    (nextEnds : ∀ value other, related value other →
      EndsLike relatedNext (next value) (nextOutcome other)) :
    EndsLike relatedNext (attempt >>= next) (outcome >>= nextOutcome) := by
  cases ends with
  | ok same => exact nextEnds _ _ same
  | error fault => exact .error fault

/-- An outcome ends like itself. -/
theorem ended (outcome : Except SyntaxFault α) :
    EndsLike (fun value other => value = other ∧ outcome = .ok other) (Attempt.ended outcome)
      outcome := by
  cases outcome with
  | error fault => exact .error fault
  | ok value => exact .ok ⟨rfl, rfl⟩

/-- A list of attempts ends as the outcomes do that they end like. -/
theorem mapM
    {ι : Type}
    {run : ι → Attempt α}
    {outcomes : ι → Except SyntaxFault β}
    {inputs : List ι}
    (each : ∀ input ∈ inputs, EndsLike related (run input) (outcomes input)) :
    EndsLike (List.Forall₂ related) (inputs.mapM run) (inputs.mapM outcomes) := by
  induction inputs with
  | nil => exact .ok .nil
  | cons input others inductionHypothesis =>
      rw [List.forall_mem_cons] at each
      rw [List.mapM_cons, List.mapM_cons]
      exact each.1.bind fun _ _ same =>
        (inductionHypothesis each.2).bind fun _ _ others => .ok (.cons same others)

theorem of_map
    {γ : Type}
    {relatedChanged : α → γ → Prop}
    (change : β → γ)
    (ends : EndsLike relatedChanged attempt (outcome.map change)) :
    EndsLike (fun value other => relatedChanged value (change other)) attempt outcome := by
  cases outcome with
  | error fault =>
      cases ends with
      | error => exact .error fault
  | ok other =>
      cases ends with
      | ok same => exact .ok same

end

/-- An attempt that ends with an equal value ends with the outcome. -/
theorem eq
    {α : Type}
    {attempt : Attempt α}
    {outcome : Except SyntaxFault α}
    (ends : EndsLike Eq attempt outcome) :
    attempt = Attempt.ended outcome := by
  cases ends with
  | ok same => rw [same]
  | error fault => rfl

end EndsLike

/-! ## Trees part by part -/

/--
A relation of trees that holds of wholes if it holds of their parts.  A call may have the
empty literals behind its own nodes that stand for empty arguments.
-/
structure Congruent
    (extra : Text → Nat)
    (related : Expr → Expr → Prop) : Prop where
  /-- Each tree is related to itself. -/
  refl : ∀ tree, related tree tree
  /-- An operand and an alternative can be replaced. -/
  otherwise : ∀ {primary other alternative otherAlternative : Expr}, related primary other →
    related alternative otherAlternative → ∀ written,
      related (.otherwise primary alternative written) (.otherwise other otherAlternative written)
  /-- The arguments of a call can be replaced. -/
  call : ∀ {nodes others : List Expr} {inner : Text},
    List.Forall₂ related nodes (others ++ List.replicate (extra inner) (.literal [])) →
      ∀ function, related (.call function nodes) (.call function others)

theorem congruent_eq : Congruent (fun _ => 0) Eq where
  refl _ := rfl
  otherwise same sameAlternative written := by rw [same, sameAlternative]
  call nodes function := by
    rw [List.forall₂_eq_eq_eq, List.replicate_zero, List.append_nil] at nodes
    rw [nodes]

namespace Reading

section
variable {extra : Text → Nat} {related : Expr → Expr → Prop}

theorem mapM_parseArgument_append
    (arguments : List Argument)
    (count : Nat) :
    (arguments ++ List.replicate count (⟨[], false⟩ : Argument)).mapM parseArgument =
      (arguments.mapM parseArgument).map (· ++ List.replicate count (.literal [])) := by
  have empties : (List.replicate count (⟨[], false⟩ : Argument)).mapM parseArgument =
      .ok (List.replicate count (.literal [])) := by
    induction count with
    | zero => rfl
    | succ count inductionHypothesis =>
        rw [List.replicate_succ, List.mapM_cons, parseArgument_of_empty, inductionHypothesis]
        rfl
  rw [List.mapM_append, empties]
  cases arguments.mapM parseArgument <;> rfl

theorem endsLike_splitPadded
    (extra : Text → Nat)
    (inner : Text) :
    EndsLike
      (fun padded arguments =>
        padded = arguments ++ List.replicate (extra inner) ⟨[], false⟩ ∧
          Argument.split inner = .ok arguments)
      (Attempt.ended (Argument.splitPadded extra inner)) (Argument.split inner) := by
  rw [Argument.splitPadded]
  cases Argument.split inner with
  | error fault => exact .error fault
  | ok arguments => exact .ok ⟨rfl, rfl⟩

/-- The arguments of a call are read as they are without the empty ones behind them. -/
theorem endsLike_arguments
    {reader : Reading → Attempt Expr}
    {arguments : List Argument}
    {count : Nat}
    (each : ∀ given ∈ arguments ++ List.replicate count ⟨[], false⟩,
      EndsLike related (reader (argument given)) (parseArgument given)) :
    EndsLike
      (fun nodes others =>
        List.Forall₂ related nodes (others ++ List.replicate count (.literal [])))
      ((arguments ++ List.replicate count (⟨[], false⟩ : Argument)).mapM fun given =>
        reader (argument given))
      (arguments.mapM parseArgument) := by
  have ends := EndsLike.mapM each
  rw [mapM_parseArgument_append] at ends
  exact ends.of_map _

/-- A step ends as the reading of which it is the step, if the parts end like their readings. -/
theorem step_endsLike
    (congruent : Congruent extra related)
    {reader : Reading → Attempt Expr}
    {reading : Reading}
    (parts : ∀ part : Reading, part.depth < reading.depth →
      EndsLike related (reader part) part.read) :
    EndsLike related (reading.step (Argument.splitPadded extra) reader) reading.read := by
  cases reading with
  | expression text =>
      have trimmed := Text.length_trim_le text
      rw [step, read]
      cases found : findTopLevel? (Text.trim text) alternativeToken with
      | some place =>
          rw [parse_of_find_eq_some found]
          have before := length_take_lt_of_find found
          have behind := length_drop_lt_of_find found
          refine (parts (expression _) ?_).bind fun _ _ same => ?_
          · simp only [depth]
            omega
          · refine (parts (expression _) ?_).bind fun _ _ sameAlternative => ?_
            · simp only [depth]
              omega
            · exact .ok (congruent.otherwise same sameAlternative _)
      | none =>
          rw [parse_of_find_eq_none found]
          dsimp only
          split
          · apply parts (call _)
            simp only [depth]
            omega
          · exact .ok (congruent.refl _)
  | call text =>
      have trimmed := Text.length_trim_le text
      rw [step, read, parseCall_eq]
      refine (EndsLike.ended _).bind ?_
      rintro pieces _ ⟨rfl, cut⟩
      have inside := CallText.length_inner_lt cut
      refine (endsLike_splitPadded extra pieces.inner).bind ?_
      rintro _ arguments ⟨rfl, parted⟩
      refine (endsLike_arguments ?_).bind fun _ _ same => .ok (congruent.call same _)
      intro given member
      apply parts (argument given)
      simp only [depth]
      -- The empty arguments behind a call are not cut from it, but a call is never empty.
      rcases List.mem_append.1 member with here | empty
      · have shorter := Argument.length_le_of_split parted here
        omega
      · rw [List.eq_of_mem_replicate empty, List.length_nil]
        omega
  | argument given =>
      rw [step, read, parseArgument]
      split
      · exact .ok (congruent.refl _)
      · split
        · apply parts (expression _)
          simp only [depth]
          omega
        · split
          · apply parts (call _)
            simp only [depth]
            omega
          · split
            · exact .ok (congruent.refl _)
            · exact .ok (congruent.refl _)

/-- Enough steps end as the reading does. -/
theorem readWithin_endsLike
    (congruent : Congruent extra related)
    {reading : Reading}
    {bound : Nat}
    (enough : reading.depth < bound) :
    EndsLike related (readWithin (Argument.splitPadded extra) bound reading) reading.read := by
  induction bound generalizing reading with
  | zero => exact absurd enough (Nat.not_lt_zero _)
  | succ bound inductionHypothesis =>
      apply step_endsLike congruent
      intro part less
      exact inductionHypothesis (Nat.lt_of_lt_of_le less (Nat.le_of_lt_succ enough))

end

/-- Reading ends, and does so as the recursion of the reader does. -/
theorem readWithin_eq
    {reading : Reading}
    {bound : Nat}
    (enough : reading.depth < bound) :
    readWithin Argument.split bound reading = Attempt.ended reading.read := by
  have ends := readWithin_endsLike congruent_eq enough
  rw [Argument.splitPadded_zero] at ends
  exact ends.eq

/-! ## The size of trees -/

/-- The nodes of arguments are as many as their joined texts leave room for. -/
theorem sizes_le_of_mapM
    {run : Argument → Except SyntaxFault Expr}
    {arguments : List Argument}
    {nodes : List Expr}
    (made : arguments.mapM run = .ok nodes)
    (each : ∀ given ∈ arguments, ∀ node, run given = .ok node →
      node.size ≤ given.text.length + 1) :
    sizes nodes ≤ (Text.join [','] (arguments.map Argument.text)).length + 1 := by
  induction arguments generalizing nodes with
  | nil =>
      cases made
      exact Nat.zero_le 1
  | cons given others inductionHypothesis =>
      rw [List.forall_mem_cons] at each
      rw [List.mapM_cons] at made
      obtain ⟨first, here, made⟩ := bind_eq_ok.1 made
      obtain ⟨rest, later, same⟩ := bind_eq_ok.1 made
      cases same
      have firstSize := each.1 first here
      have restSizes := inductionHypothesis later each.2
      rw [sizes]
      cases others with
      | nil =>
          cases later
          exact firstSize
      | cons second others =>
          rw [List.map_cons] at restSizes
          rw [List.map_cons, List.map_cons, Text.join]
          simp only [List.length_append, List.length_singleton]
          omega

/-- An expression with bars at the top level is read on both sides of them. -/
theorem exists_parse_of_bars_lt
    {text : Text}
    (barred : (findTopLevel? (Text.trim text) alternativeToken).isSome) :
    ∃ left right,
      parse text = (do
        let primary ← parse left
        let alternative ← parse right
        return .otherwise primary alternative (Text.trim right)) ∧
      left.length + right.length + 2 ≤ text.length := by
  obtain ⟨left, right, parted, first⟩ := exists_append_of_findTopLevel? barred
  have trimmed := Text.length_trim_le text
  rw [parted, List.length_append, List.length_append] at trimmed
  refine ⟨left, right, ?_, ?_⟩
  · rw [parted] at first
    rw [← parse_trim, parted, parse_of_first_bars first]
  · have bars : alternativeToken.length = 2 := rfl
    omega

theorem size_le_of_parse
    {text : Text}
    {tree : Expr}
    (made : parse text = .ok tree)
    (parts : ∀ part : Text, part.length < text.length → ∀ tree, parse part = .ok tree →
      tree.size ≤ part.length + 1)
    (call : ∀ tree, parseCall (Text.trim text) = .ok tree →
      tree.size ≤ (Text.trim text).length + 1) :
    tree.size ≤ text.length + 1 := by
  have trimmed := Text.length_trim_le text
  cases found : findTopLevel? (Text.trim text) alternativeToken with
  | some place =>
      obtain ⟨left, right, read, lengths⟩ :=
        exists_parse_of_bars_lt (Option.isSome_iff_exists.2 ⟨place, found⟩)
      rw [read] at made
      obtain ⟨primary, primaryRead, made⟩ := bind_eq_ok.1 made
      obtain ⟨alternative, alternativeRead, same⟩ := bind_eq_ok.1 made
      cases same
      have primarySize := parts left (by omega) primary primaryRead
      have alternativeSize := parts right (by omega) alternative alternativeRead
      rw [size]
      omega
  | none =>
      rw [parse_of_find_eq_none found] at made
      split at made
      · have callSize := call tree made
        omega
      · cases made
        rw [size]
        omega

theorem size_le_of_parseCall
    {text : Text}
    {tree : Expr}
    (made : parseCall text = .ok tree)
    (arguments : ∀ given : Argument, given.text.length < text.length →
      ∀ tree, parseArgument given = .ok tree → tree.size ≤ given.text.length + 1) :
    tree.size ≤ text.length + 1 := by
  rw [parseCall_eq] at made
  obtain ⟨pieces, cut, made⟩ := bind_eq_ok.1 made
  obtain ⟨givens, parted, made⟩ := bind_eq_ok.1 made
  obtain ⟨nodes, read, same⟩ := bind_eq_ok.1 made
  cases same
  have trimmed := Text.length_trim_le text
  have inside := CallText.length_inner_lt cut
  have total := Argument.length_join_le_of_split parted
  have nodeSizes := sizes_le_of_mapM read fun given member =>
    arguments given (by have shorter := Argument.length_le_of_split parted member; omega)
  rw [size]
  omega

theorem size_le_of_parseArgument
    {given : Argument}
    {tree : Expr}
    (made : parseArgument given = .ok tree)
    (expression : parse given.text = .ok tree → tree.size ≤ given.text.length + 1)
    (call : parseCall given.text = .ok tree → tree.size ≤ given.text.length + 1) :
    tree.size ≤ given.text.length + 1 := by
  have single : 1 ≤ given.text.length + 1 := Nat.le_add_left 1 _
  rw [parseArgument] at made
  split at made
  · cases made
    exact single
  · split at made
    · exact expression made
    · split at made
      · exact call made
      · split at made
        · cases made
          exact single
        · cases made
          exact single

/-- A tree has at most one node more than its text has characters. -/
theorem size_le_of_read
    {reading : Reading}
    {tree : Expr}
    (made : reading.read = .ok tree) :
    tree.size ≤ reading.text.length + 1 := by
  induction steps : reading.depth using Nat.strong_induction_on generalizing reading tree with
  | _ bound inductionHypothesis =>
      subst steps
      have parts (part : Reading) (less : part.depth < reading.depth) (tree : Expr)
          (made : part.read = .ok tree) : tree.size ≤ part.text.length + 1 :=
        inductionHypothesis part.depth less made rfl
      clear inductionHypothesis
      cases reading with
      | expression text =>
          have trimmed := Text.length_trim_le text
          rw [Reading.text]
          refine size_le_of_parse made ?_ (parts (call (Text.trim text)) ?_)
          · intro part shorter
            apply parts (expression part)
            simp only [depth]
            omega
          · simp only [depth]
            omega
      | call text =>
          apply size_le_of_parseCall made
          intro given shorter
          apply parts (argument given)
          simp only [depth]
          omega
      | argument given =>
          apply size_le_of_parseArgument made
          · apply parts (expression given.text)
            simp only [depth]
            omega
          · apply parts (call given.text)
            simp only [depth]
            omega

-- Bars alone are three nodes, the one more that the bound allows.
example : (parse "||".toList).map size = .ok 3 := by cbv

/-- A text without a parenthesis is no call. -/
theorem parseCall_of_not_mem
    {text : Text}
    (unopened : '(' ∉ text) :
    parseCall text = .error .missingOpen := by
  have passed : (Text.trim text).dropWhile (· != '(') = [] := by
    rw [List.dropWhile_eq_nil_iff]
    intro c member
    have inside := (Text.trim_isInfix text).subset member
    rw [bne_iff_ne]
    rintro rfl
    exact unopened inside
  rw [parseCall_eq, CallText.ofText, passed]
  rfl

/-- The lack of a parenthesis is the fault exactly of texts without one read as a call. -/
theorem read_eq_missingOpen_iff (reading : Reading) :
    reading.read = .error .missingOpen ↔ ∃ text, reading = call text ∧ '(' ∉ text := by
  constructor
  · intro failed
    cases reading with
    | expression text => exact absurd failed (opened_parse text).1
    | call text => exact ⟨text, rfl, fun opened => (opened_parse text).2 opened failed⟩
    | argument given =>
        have parts := opened_parse given.text
        exact absurd failed (opened_parseArgument parts.1 parts.2)
  · rintro ⟨text, rfl, unopened⟩
    exact parseCall_of_not_mem unopened

/--
Reading ends after at most as many nested steps as the depth says.  It comes to a tree with
at most one node more than the text has characters, or to a fault.  The fault is one of the
syntax, except exactly where a text without a parenthesis is read as a call, which the
reader of expressions and arguments never does.  The arguments of a call, with a separator
between each two, are together no longer than the text between its parentheses.
-/
theorem read_bounded (reading : Reading) :
    readWithin Argument.split (reading.depth + 1) reading = Attempt.ended reading.read ∧
      ((∃ tree, reading.read = .ok tree ∧ tree.size ≤ reading.text.length + 1) ∨
        ∃ fault, reading.read = .error fault) ∧
      (reading.read = .error .missingOpen ↔ ∃ text, reading = call text ∧ '(' ∉ text) ∧
      ∀ inner arguments, Argument.split inner = .ok arguments →
        (Text.join [','] (arguments.map Argument.text)).length ≤ inner.length := by
  refine ⟨readWithin_eq (Nat.lt_succ_self _), ?_, read_eq_missingOpen_iff reading,
    fun _ _ => Argument.length_join_le_of_split⟩
  cases made : reading.read with
  | ok tree => exact Or.inl ⟨tree, rfl, size_le_of_read made⟩
  | error fault => exact Or.inr ⟨fault, rfl⟩

/-- A text without a parenthesis, read as a call, ends in a fault without a message. -/
theorem read_call_unopened :
    (call "x".toList).read = .error .missingOpen ∧ SyntaxFault.missingOpen.message? = none := by
  refine ⟨?_, rfl⟩
  rw [read, parseCall_eq]
  rfl

end Reading
end Expr
end LabelPress
