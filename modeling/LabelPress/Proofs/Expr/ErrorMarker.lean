import LabelPress.Expr.Eval
import LabelPress.Proofs.Expr.Alternative
import LabelPress.Proofs.Expr.Written
import LabelPress.Proofs.Text.Case
import LabelPress.Proofs.Text.Search

/-!
# The error marker below other functions

A call of an unknown function gives the error marker as an ordinary text, which the
functions around the call take for data.  Main statement: which nestings of functions show
the marker whatever their further arguments are, namely those of functions that carry a
text over, if none of them makes it lower case after the last one that makes it upper case.

Behind functions that carry a text the marker stays at the start, in one of two spellings
that share no character with the fields of a date.  All other functions lose it for some
literals, and a few texts without the marker are then closed under all functions.
-/

namespace LabelPress

namespace Date

variable {kept text : Text}

theorem isPrefix_replaceFields
    {fields : List (Text × Text)}
    (apart : ∀ field ∈ fields, ∀ c ∈ kept, c ∉ field.1)
    (begins : kept <+: text) :
    kept <+: replaceFields fields text := by
  induction fields generalizing text with
  | nil => exact begins
  | cons field others inductionHypothesis =>
      rw [List.forall_mem_cons] at apart
      obtain ⟨rest, rfl⟩ := begins
      have next : kept <+: Text.replaceAll field.1 field.2 (kept ++ rest) := by
        rw [Text.replaceAll_append_of_apart apart.1]
        exact List.prefix_append _ _
      exact inductionHypothesis apart.2 next

/-- A beginning of a pattern without letters of date fields is printed as it is. -/
theorem isPrefix_format
    (apart : ∀ c ∈ kept, c ∉ "DMAhms".toList)
    (begins : kept <+: text)
    (date : Date) :
    kept <+: date.format text := by
  have letters : ∀ field ∈ date.patternFields, ∀ c ∈ field.1, c ∈ "DMAhms".toList := by
    simp only [patternFields, List.forall_mem_cons]
    decide
  apply isPrefix_replaceFields ?_ begins
  intro field member c here there
  exact apart c here (letters field member c there)

end Date

namespace Builtin

/-- The function puts its first argument into its result, up to case. -/
def carries : Builtin → Bool
  | .upper | .lower | .concat | .today | .now | .orDefault => true
  | _ => false

/-- What a function that carries a text makes of a part of it. -/
def recase : Builtin → Text → Text
  | .upper, part => Text.upper part
  | .lower, part => Text.lower part
  | _, part => part

/-- The spellings of the error marker. -/
def spellings : List Text :=
  [errorMarker, Text.lower errorMarker]

theorem recase_mem_spellings
    {spelling : Text}
    (known : spelling ∈ spellings)
    (function : Builtin) :
    function.recase spelling ∈ spellings := by
  cases function <;> revert spelling <;> decide

theorem eq_errorMarker_of_isInfix :
    ∀ spelling ∈ spellings, errorMarker <:+: spelling → spelling = errorMarker := by
  decide

/-- The spellings are ASCII texts without letters of date fields. -/
theorem plain_of_mem_spellings :
    ∀ spelling ∈ spellings,
      spelling ≠ [] ∧ ∀ c ∈ spelling, c.toNat < 128 ∧ c ∉ "DMAhms".toList := by
  decide

/-- A spelling of the error marker at the start of the first argument is carried over. -/
theorem recase_isPrefix_of_apply
    {function : Builtin}
    {spelling value result : Text}
    {literals : List Text}
    {row : Row}
    {context : Context}
    (carried : function.carries)
    (known : spelling ∈ spellings)
    (begins : spelling <+: value)
    (made : function.apply (value :: literals) row context = .ok result) :
    function.recase spelling <+: result := by
  obtain ⟨solid, plain⟩ := plain_of_mem_spellings spelling known
  have first (substitute : Text) : spelling <+: orElse value substitute := by
    have nonempty : value ≠ [] := by
      rintro rfl
      exact solid (List.prefix_nil.1 begins)
    rwa [orElse, if_neg (by simp [nonempty])]
  cases function with
  | upper =>
      cases made
      exact begins.flatMap Text.upperChar
  | lower =>
      cases made
      exact Text.lower_isPrefix (fun c member => (plain c member).1) begins
  | concat =>
      cases made
      exact begins.trans (List.prefix_append _ _)
  | today =>
      cases made
      exact Date.isPrefix_format (fun c member => (plain c member).2) (first _) _
  | now =>
      cases made
      exact Date.isPrefix_format (fun c member => (plain c member).2) (first _) _
  | orDefault =>
      cases made
      exact first _
  | _ => cases carried

/-- How the error marker is spelt behind some functions that carry it, outermost first. -/
def spelling (functions : List Builtin) : Text :=
  functions.foldr recase errorMarker

theorem spelling_mem_spellings (functions : List Builtin) :
    spelling functions ∈ spellings := by
  induction functions with
  | nil => exact List.mem_cons_self
  | cons function others inductionHypothesis =>
      exact recase_mem_spellings inductionHypothesis function

/-! ## Functions that lose the marker -/

/-- Further arguments with which a function that does not carry a text loses it. -/
def mask (value : Text) : Builtin → List Text
  | .clip => [['1']]
  | .replace => [value, ['0']]
  | .addDays | .addMonths | .choose => [['0'], ['0']]
  | .formatDate => [['0']]
  | _ => []

/-- Texts without the error marker, also in other case. -/
def quietTexts : List Text :=
  ["0", "1", "5", "#", "f", "F", "false", "FALSE", "1ERR1", "1err1"].map String.toList

/-- The first label of a batch, on some day. -/
def sampleContext : Context :=
  ⟨0, 1, .midnight ⟨2026, 3, 15, by decide, by decide, by decide⟩⟩

theorem not_isInfix_of_mem_quietTexts :
    ∀ text ∈ quietTexts, ¬ errorMarker <:+: text := by
  decide

theorem apply_spelling
    (function : Builtin)
    (carried : function.carries) :
    ∀ spelling ∈ spellings,
      function.apply (spelling :: function.mask spelling) [] sampleContext =
        .ok (function.recase spelling) := by
  revert carried
  cases function <;> decide +kernel

theorem exists_apply_spelling
    (function : Builtin)
    (lost : function.carries = false) :
    ∀ spelling ∈ spellings, ∃ result ∈ quietTexts,
      function.apply (spelling :: function.mask spelling) [] sampleContext = .ok result := by
  revert lost
  cases function <;> decide +kernel

theorem exists_apply_quiet (function : Builtin) :
    ∀ value ∈ quietTexts, ∃ result ∈ quietTexts,
      function.apply (value :: function.mask value) [] sampleContext = .ok result := by
  cases function <;> decide +kernel

end Builtin

namespace Expr

open Builtin

/-- A call around an expression: its function, and the literals behind its first argument. -/
structure Layer where
  /-- The function that is called. -/
  function : Builtin
  /-- The arguments behind the first one. -/
  literals : List Text

/-- An expression as the first argument of calls in calls, the outermost one first. -/
def nest (inner : Expr) : List Layer → Expr
  | [] => inner
  | layer :: layers =>
      .call layer.function.name (nest inner layers :: layer.literals.map .literal)

section
variable {row : Row} {context : Context} {inner : Expr} {layer : Layer} {layers : List Layer}
  {value result : Text}

/-- An outer call is applied to what the inner ones come to. -/
theorem eval_nest_cons_eq_ok :
    (nest inner (layer :: layers)).eval row context = .ok result ↔
      ∃ value, (nest inner layers).eval row context = .ok value ∧
        layer.function.apply (value :: layer.literals) row context = .ok result := by
  rw [nest, eval, evalAll, evalAll_literals]
  cases (nest inner layers).eval row context with
  | error fault => simp [bind, Except.bind]
  | ok value =>
      simp [bind, Except.bind, pure, Except.pure, callFunction, Builtin.ofName?_name]

/-- Only the marker comes out of a call of an unknown function. -/
theorem eval_unknown_eq_ok
    {unknown : Text}
    {arguments : List Expr}
    (unregistered : Builtin.ofName? unknown = none)
    (made : (call unknown arguments).eval row context = .ok result) :
    result = errorMarker := by
  rw [eval] at made
  obtain ⟨values, -, made⟩ := bind_eq_ok.1 made
  rw [callFunction, unregistered] at made
  exact (Except.ok.inj made).symm

/-- Functions that carry a text carry the marker, in the spelling that they leave it in. -/
theorem spelling_isPrefix_of_eval_nest
    {unknown : Text}
    {arguments : List Expr}
    (unregistered : Builtin.ofName? unknown = none)
    (carried : ∀ function ∈ layers.map Layer.function, function.carries)
    (made : (nest (.call unknown arguments) layers).eval row context = .ok result) :
    spelling (layers.map Layer.function) <+: result := by
  induction layers generalizing result with
  | nil =>
      rw [eval_unknown_eq_ok unregistered made]
      exact List.prefix_rfl
  | cons layer layers inductionHypothesis =>
      rw [List.map_cons, List.forall_mem_cons] at carried
      obtain ⟨value, inside, applied⟩ := eval_nest_cons_eq_ok.1 made
      exact recase_isPrefix_of_apply carried.1 (spelling_mem_spellings _)
        (inductionHypothesis carried.2 inside) applied

end

/-- A call of a function that does not exist. -/
def unknownCall : Expr :=
  .call "NOPE".toList [.column "x".toList (some "x".toList)]

theorem written_unknownCall :
    Written (.expression unknownCall) "NOPE(x)".toList := by
  have column : Written (.argument (.column "x".toList (some "x".toList))) "x".toList :=
    .reference ⟨by decide, by decide⟩ (.refl _)
  exact .tightCall ⟨by decide, by decide⟩ (.last column)

/-- With some literals, functions leave the bare marker or lose it. -/
theorem exists_nest (functions : List Builtin) :
    ∃ layers value,
      layers.map Layer.function = functions ∧
        (nest unknownCall layers).eval [] sampleContext = .ok value ∧
        ((∀ function ∈ functions, function.carries) ∧ value = spelling functions ∨
          value ∈ quietTexts) := by
  induction functions with
  | nil => exact ⟨[], errorMarker, rfl, rfl, .inl ⟨List.forall_mem_nil _, rfl⟩⟩
  | cons function others inductionHypothesis =>
      obtain ⟨layers, value, rfl, inside, shape⟩ := inductionHypothesis
      have outside {result : Text} :=
        @eval_nest_cons_eq_ok [] sampleContext unknownCall ⟨function, function.mask value⟩ layers
          result
      -- A bare marker is carried on or lost here; what is lost inside stays lost.
      rcases shape with ⟨carried, rfl⟩ | quiet
      · have known := spelling_mem_spellings (layers.map Layer.function)
        cases carries : function.carries with
        | true =>
            have applied := apply_spelling function carries _ known
            refine ⟨_ :: layers, _, rfl, outside.2 ⟨_, inside, applied⟩, .inl ⟨?_, rfl⟩⟩
            exact List.forall_mem_cons.2 ⟨carries, carried⟩
        | false =>
            obtain ⟨result, quiet, applied⟩ := exists_apply_spelling function carries _ known
            exact ⟨_ :: layers, result, rfl, outside.2 ⟨_, inside, applied⟩, .inr quiet⟩
      · obtain ⟨result, quiet, applied⟩ := exists_apply_quiet function value quiet
        exact ⟨_ :: layers, result, rfl, outside.2 ⟨_, inside, applied⟩, .inr quiet⟩

theorem isFunctionName_name (function : Builtin) :
    IsFunctionName function.name := by
  cases function <;> exact ⟨by decide, by decide⟩

/-- Every nesting of calls can be written. -/
theorem exists_written_nest (layers : List Layer) :
    ∃ text, Written (.expression (nest unknownCall layers)) text := by
  induction layers with
  | nil => exact ⟨_, written_unknownCall⟩
  | cons layer layers inductionHypothesis =>
      obtain ⟨text, inner⟩ := inductionHypothesis
      have compound : IsCompound (nest unknownCall layers) := by
        cases layers <;> trivial
      obtain ⟨joined, arguments⟩ :
          ∃ joined,
            Written (.arguments (nest unknownCall layers :: layer.literals.map .literal))
              joined := by
        apply Written.exists_arguments
        rw [List.forall_mem_cons, List.forall_mem_map]
        exact ⟨⟨text, .compound compound inner⟩, fun value _ => Written.exists_literal value⟩
      exact ⟨_, .tightCall (isFunctionName_name layer.function) arguments⟩

/--
Functions around a call of an unknown function show the error marker for all their further
arguments exactly if they carry it and leave it in upper case.
-/
theorem errorMarker_isInfix_evalText_iff (functions : List Builtin) :
    (∀ layers : List Layer, layers.map Layer.function = functions →
        ∀ unknown arguments, Builtin.ofName? unknown = none →
          ∀ text, parse text = .ok (nest (.call unknown arguments) layers) →
            ∀ row context, errorMarker <:+: evalText row context text) ↔
      (∀ function ∈ functions, function.carries) ∧ spelling functions = errorMarker := by
  constructor
  · intro shows
    obtain ⟨layers, value, same, made, shape⟩ := exists_nest functions
    obtain ⟨text, written⟩ := exists_written_nest layers
    have unregistered : Builtin.ofName? "NOPE".toList = none := by decide
    have comes : outcome [] sampleContext text = .ok value :=
      outcome_eq_ok.2 ⟨_, written.reads, made⟩
    have shown := shows layers same _ _ unregistered text written.reads [] sampleContext
    rw [evalText_of_outcome comes] at shown
    rcases shape with ⟨carried, rfl⟩ | quiet
    · refine ⟨carried, ?_⟩
      exact eq_errorMarker_of_isInfix _ (spelling_mem_spellings functions) shown
    · exact absurd shown (not_isInfix_of_mem_quietTexts value quiet)
  · rintro ⟨carried, upright⟩ layers rfl unknown arguments unregistered text read row context
    rw [evalText_eq]
    cases made : outcome row context text with
    | error fault => exact List.infix_rfl
    | ok value =>
        obtain ⟨tree, same, evaluated⟩ := outcome_eq_ok.1 made
        rw [read] at same
        cases same
        have begins := spelling_isPrefix_of_eval_nest unregistered carried evaluated
        rw [upright] at begins
        exact begins.isInfix

/-- The number of characters of the marker hides it. -/
theorem evalText_length_of_unknown :
    let row : Row := [(.name "x".toList, .text "1".toList)]
    Builtin.ofName? "NOPE".toList = none ∧
      parse "LARGO(NOPE(x))".toList = .ok (nest unknownCall [⟨.length, []⟩]) ∧
      evalText row sampleContext "LARGO(NOPE(x))".toList = "5".toList ∧
      ¬ errorMarker <:+: "5".toList := by
  intro row
  have compound : IsCompound unknownCall := trivial
  have outer :
      Written (.expression (nest unknownCall [⟨.length, []⟩])) "LARGO(NOPE(x))".toList :=
    .tightCall (isFunctionName_name .length) (.last (.compound compound written_unknownCall))
  have comes : outcome row sampleContext "LARGO(NOPE(x))".toList = .ok "5".toList :=
    outcome_eq_ok.2 ⟨_, outer.reads, rfl⟩
  exact ⟨by decide, outer.reads, evalText_of_outcome comes, by decide⟩

end Expr
end LabelPress
