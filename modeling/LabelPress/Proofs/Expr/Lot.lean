import LabelPress.Expr.Apply
import LabelPress.Proofs.Calendar.Pass
import LabelPress.Proofs.Outcome

/-!
# Lot codes

A lot code is made in two steps: first the fields of the date are replaced, then every
maximal run of the number sign by the number of the row.  Main statements: both steps
together are one pass over the pattern, which for a pattern without runs writes what the
function of the day writes; and the codes of two rows of a batch differ if there is a run.

For the last one, the code of the longer number is longer, or else both numbers fill all
runs to the same widths, so that the first run stands at the same place in both codes.
-/

namespace LabelPress
namespace Builtin

/-! ## Runs of the number sign -/

section
variable {sequence other text rest : Text} {run count : Nat}

theorem fillRuns_cons_of_ne
    {c : Char}
    (different : c ≠ '#') :
    fillRuns sequence 0 (c :: rest) = c :: fillRuns sequence 0 rest := by
  rw [fillRuns, if_neg different, if_pos rfl]

theorem fillRuns_replicate_append :
    fillRuns sequence run (List.replicate count '#' ++ rest) =
      fillRuns sequence (run + count) rest := by
  induction count generalizing run with
  | zero => rfl
  | succ count inductionHypothesis =>
      rw [List.replicate_succ, List.cons_append, fillRuns, if_pos rfl, inductionHypothesis,
        Nat.add_right_comm, Nat.add_assoc]

/-- A maximal run is filled as a whole. -/
theorem fillRuns_append_run
    (ends : rest.head? ≠ some '#') :
    fillRuns sequence 0 (List.replicate (count + 1) '#' ++ rest) =
      Numeral.padLeft (count + 1) '0' sequence ++ fillRuns sequence 0 rest := by
  rw [fillRuns_replicate_append, Nat.zero_add]
  cases rest with
  | nil => rw [fillRuns, if_neg (Nat.succ_ne_zero count), fillRuns, if_pos rfl, List.append_nil]
  | cons c rest =>
      have different : c ≠ '#' := by simpa using ends
      rw [fillRuns, if_neg different, if_neg (Nat.succ_ne_zero count),
        fillRuns_cons_of_ne different]

/-- The run of number signs at the start of a text, with the number of the row for it. -/
def runToken? (sequence : Text) : Text → Option Text.Token :=
  Text.runAt? '#' fun width => Numeral.padLeft width '0' sequence

theorem fillRuns_eq_fillTokens
    (sequence text : Text) :
    fillRuns sequence 0 text = Text.fillTokens (runToken? sequence) text := by
  induction size : text.length using Nat.strongRecOn generalizing text with
  | ind length inductionHypothesis =>
      subst size
      cases text with
      | nil => rw [fillRuns, if_pos rfl, Text.fillTokens]
      | cons c tail =>
          by_cases same : c = '#'
          · subst same
            obtain ⟨count, rest, rfl, ends⟩ := Text.exists_run '#' tail
            have found :
                runToken? sequence ('#' :: (List.replicate count '#' ++ rest)) =
                  some ⟨count + 1, Numeral.padLeft (count + 1) '0' sequence⟩ :=
              Text.runAt?_append ends _
            have shorter :
                rest.length < ('#' :: (List.replicate count '#' ++ rest)).length := by
              rw [List.length_cons, List.length_append]
              omega
            have later := inductionHypothesis rest.length shorter rest rfl
            have behind : (List.replicate count '#' ++ rest).drop (count + 1 - 1) = rest := by
              simp
            rw [Text.fillTokens_cons_of_some found, behind, ← later]
            exact fillRuns_append_run ends
          · have absent : runToken? sequence (c :: tail) = none := Text.runAt?_cons_of_ne same _ _
            rw [fillRuns_cons_of_ne same, Text.fillTokens_cons_of_none absent,
              inductionHypothesis _ (Nat.lt_succ_self _) _ rfl]

end

/-! ## One pass over the pattern -/

/-- What starts at a place of a lot pattern: a field of the date, or a run of number signs. -/
def lotToken?
    (date : Date)
    (sequence text : Text) : Option Text.Token :=
  (Text.fieldAt? (lotFields date) text).or (runToken? sequence text)

section
variable {row : Row} {context : Context} {date : Date} {sequence pattern text : Text}

theorem separable_lotFields (date : Date) :
    Date.Separable (lotFields date) where
  each := by
    intro field member
    apply date.isNumberField_of_mem_patternFields
    simp only [lotFields, List.mem_cons, List.not_mem_nil, or_false] at member
    simp only [Date.patternFields, List.mem_cons]
    tauto
  longerFirst := by
    simp only [lotFields, List.pairwise_cons, List.forall_mem_cons]
    decide

/-- The two steps are one pass. -/
theorem fillRuns_replaceFields
    (date : Date)
    (sequence pattern : Text) :
    fillRuns sequence 0 (Date.replaceFields (lotFields date) pattern) =
      Text.fillTokens (lotToken? date sequence) pattern := by
  have digitless (c : Char) (digit : c.isDigit) (rest : Text) :
      runToken? sequence (c :: rest) = none := by
    apply Text.runAt?_cons_of_ne
    rintro rfl
    cases digit
  rw [fillRuns_eq_fillTokens]
  exact Date.fillTokens_replaceFields (separable_lotFields date) (Text.ByRuns.runAt? ..)
    digitless pattern

/-- The lot code of a row, unless the number of the row has too many digits. -/
theorem callFunction_lot
    (nonempty : pattern ≠ []) :
    callFunction Builtin.lot.name [pattern] row context =
      if context.rowIndex + 1 < 10 ^ Numeral.digitLimit then
        .ok (fillRuns (Numeral.ofNat (context.rowIndex + 1)) 0
          (Date.replaceFields (lotFields context.now.date) pattern))
      else
        .error (.numeric .tooManyDigits) := by
  have given : orElse pattern defaultLotPattern = pattern := if_neg (by simpa using nonempty)
  rw [callFunction, Builtin.ofName?_name]
  change applyLot [pattern] context = _
  simp only [applyLot, argumentAt, List.getD_cons_zero, given, Numeral.write_eq,
    Int.natAbs_natCast]
  split_ifs <;> rfl

theorem callFunction_today
    (nonempty : pattern ≠ []) :
    callFunction Builtin.today.name [pattern] row context =
      .ok (context.now.date.format pattern) := by
  have given : orElse pattern defaultDatePattern = pattern := if_neg (by simpa using nonempty)
  rw [callFunction, Builtin.ofName?_name]
  change Except.ok (context.now.date.format (orElse pattern defaultDatePattern)) = _
  rw [given]

/-- The fields of a date pattern for the time of day. -/
def clockFields : List (Text × Text) :=
  [("hh".toList, "00".toList), ("mm".toList, "00".toList), ("ss".toList, "00".toList)]

/-- Date patterns have the fields of lot patterns and those for the time of day. -/
theorem patternFields_perm (date : Date) :
    date.patternFields.Perm (lotFields date ++ clockFields) := by
  have parts (day month year shortYear : Text × Text) :
      [day, month, year, shortYear].Perm [year, shortYear, month, day] := by
    have turned : ([day, month] ++ [year, shortYear]).Perm ([year, shortYear] ++ [day, month]) :=
      List.perm_append_comm
    exact turned.trans (List.Perm.append_left [year, shortYear] (List.Perm.swap month day []))
  exact (parts ..).append_right clockFields

/-- Without runs and fields for the time of day both kinds of patterns have the same tokens. -/
theorem fieldAt?_patternFields
    (date : Date)
    (sequence : Text)
    (unmarked : '#' ∉ text)
    (clockless : ∀ field ∈ clockFields, ¬ field.1 <+: text) :
    Text.fieldAt? date.patternFields text = lotToken? date sequence text := by
  have distinct : (date.patternFields.map Prod.fst).Nodup := by
    simp only [Date.patternFields, List.map_cons, List.map_nil]
    decide
  have noRun : runToken? sequence text = none := by
    cases text with
    | nil => rfl
    | cons c rest =>
        apply Text.runAt?_cons_of_ne
        rintro rfl
        exact unmarked List.mem_cons_self
  rw [lotToken?, noRun, Option.or_none, Text.fieldAt?, Text.fieldAt?,
    Text.longestField?_perm (patternFields_perm date) distinct,
    Text.longestField?_append clockless]

/-- What holds for the whole pattern holds at each place of the pass. -/
theorem format_eq_lotToken?
    (date : Date)
    (sequence : Text)
    (unmarked : '#' ∉ pattern)
    (clockless : ∀ word ∈ ["hh", "mm", "ss"], ¬ word.toList <:+: pattern) :
    date.format pattern = Text.fillTokens (lotToken? date sequence) pattern := by
  rw [Date.format_eq_fillTokens]
  refine Text.fillTokens_congr fun tail behind => fieldAt?_patternFields date sequence
    (fun member => unmarked (behind.subset member)) fun field member begins => ?_
  have inside : field.1 <:+: pattern := begins.isInfix.trans behind.isInfix
  simp only [clockFields, List.mem_cons, List.not_mem_nil, or_false] at member
  rcases member with rfl | rfl | rfl
  · exact clockless "hh" (by decide) inside
  · exact clockless "mm" (by decide) inside
  · exact clockless "ss" (by decide) inside

/--
Dates and lot codes are written by one pass over the pattern, so that nothing that is put in
is replaced again; a lot code only if the number of its row does not have too many digits.
Where a pattern has no runs and no fields for the time of day, both are the same text.
-/
theorem fills_in_one_pass :
    (∀ (date : Date) (pattern : Text),
      date.format pattern = Text.fillTokens (Text.fieldAt? date.patternFields) pattern) ∧
    ∀ (row : Row) (context : Context) (pattern : Text), pattern ≠ [] →
      callFunction Builtin.lot.name [pattern] row context =
        (if context.rowIndex + 1 < 10 ^ Numeral.digitLimit then
          .ok (Text.fillTokens
            (lotToken? context.now.date (Numeral.ofNat (context.rowIndex + 1))) pattern)
        else
          .error (.numeric .tooManyDigits)) ∧
      ('#' ∉ pattern → (∀ word ∈ ["hh", "mm", "ss"], ¬ word.toList <:+: pattern) →
        context.rowIndex + 1 < 10 ^ Numeral.digitLimit →
          callFunction Builtin.lot.name [pattern] row context =
            callFunction Builtin.today.name [pattern] row context) := by
  refine ⟨Date.format_eq_fillTokens, fun row context pattern nonempty => ?_⟩
  have passed := fillRuns_replaceFields context.now.date
    (Numeral.ofNat (context.rowIndex + 1)) pattern
  rw [callFunction_lot nonempty, callFunction_today nonempty, passed]
  refine ⟨rfl, fun unmarked clockless short => ?_⟩
  rw [if_pos short, format_eq_lotToken? _ _ unmarked clockless]

/-- Left over letters, touching fields and runs of different lengths. -/
theorem fills_in_one_pass_touching_tokens :
    let date : Date := ⟨2026, 3, 15, by decide, by decide, by decide⟩
    let context : Context := ⟨11, 20, .midnight date⟩
    date.format "AAAAAAADDDhh".toList = "202626A15D00".toList ∧
      callFunction Builtin.lot.name ["##AAA###".toList] [] context = .ok "1226A012".toList ∧
      callFunction Builtin.lot.name ["DDDMMM".toList] [] context =
        callFunction Builtin.today.name ["DDDMMM".toList] [] context := by
  intro date context
  have short : 12 < 10 ^ Numeral.digitLimit :=
    (by decide : 12 < 10 ^ 2).trans_le (Nat.pow_le_pow_right (by decide) (by decide))
  obtain ⟨dates, lots⟩ := fills_in_one_pass
  have marked := (lots [] context "##AAA###".toList (by decide)).1
  have plain := (lots [] context "DDDMMM".toList (by decide)).2 (by decide) (by decide) short
  rw [if_pos short] at marked
  exact ⟨(dates date _).trans (by decide +kernel), marked.trans (by decide +kernel), plain⟩

/-- The number behind 4300 nines is not written, not even for a pattern without runs. -/
theorem lot_ne_today_of_many_digits :
    let context : Context :=
      ⟨10 ^ Numeral.digitLimit - 1, 1, .midnight ⟨2026, 3, 15, by decide, by decide, by decide⟩⟩
    let pattern := "AAAA".toList
    '#' ∉ pattern ∧ (∀ word ∈ ["hh", "mm", "ss"], ¬ word.toList <:+: pattern) ∧
      callFunction Builtin.lot.name [pattern] [] context = .error (.numeric .tooManyDigits) ∧
      callFunction Builtin.today.name [pattern] [] context = .ok "2026".toList := by
  intro context pattern
  have positive : 0 < 10 ^ Numeral.digitLimit := Nat.pow_pos (by decide)
  have long : ¬ 10 ^ Numeral.digitLimit - 1 + 1 < 10 ^ Numeral.digitLimit := by
    rw [Nat.sub_add_cancel positive]
    exact lt_irrefl _
  refine ⟨by decide, by decide, ?_, ?_⟩
  · rw [callFunction_lot (by decide), if_neg long]
  · rw [callFunction_today (by decide)]
    decide +kernel

/-! ## Different rows -/

/-- A longer number never makes a code shorter. -/
theorem length_fillRuns_le
    {other : Text}
    (le : sequence.length ≤ other.length)
    (run : Nat)
    (text : Text) :
    (fillRuns sequence run text).length ≤ (fillRuns other run text).length := by
  have padded (width : Nat) :
      (Numeral.padLeft width '0' sequence).length ≤ (Numeral.padLeft width '0' other).length := by
    rw [Numeral.length_padLeft, Numeral.length_padLeft]
    exact max_le_max_left width le
  induction text generalizing run with
  | nil =>
      rw [fillRuns, fillRuns]
      split_ifs
      · exact le_refl _
      · exact padded run
  | cons c rest inductionHypothesis =>
      rw [fillRuns, fillRuns]
      split_ifs
      · exact inductionHypothesis (run + 1)
      · exact Nat.succ_le_succ (inductionHypothesis 0)
      · rw [List.length_append, List.length_append]
        exact Nat.add_le_add (padded run) (Nat.succ_le_succ (inductionHypothesis 0))

/-- Equal codes fill their first run equally. -/
theorem exists_padLeft_eq_of_length_le
    {other : Text}
    (le : sequence.length ≤ other.length)
    (marked : '#' ∈ text)
    (same : fillRuns sequence 0 text = fillRuns other 0 text) :
    ∃ width, Numeral.padLeft width '0' sequence = Numeral.padLeft width '0' other := by
  induction text with
  | nil => cases marked
  | cons c tail inductionHypothesis =>
      by_cases isMark : c = '#'
      · subst isMark
        obtain ⟨count, rest, rfl, ends⟩ := Text.exists_run '#' tail
        rw [← List.cons_append, ← List.replicate_succ, fillRuns_append_run ends,
          fillRuns_append_run ends] at same
        refine ⟨count + 1, (List.append_inj same ?_).1⟩
        -- Neither the run nor what follows it gets shorter, and together they are equally long.
        have whole := congrArg List.length same
        have behind := length_fillRuns_le le 0 rest
        rw [List.length_append, List.length_append] at whole
        rw [Numeral.length_padLeft, Numeral.length_padLeft] at whole ⊢
        omega
      · rw [fillRuns_cons_of_ne isMark, fillRuns_cons_of_ne isMark] at same
        have later := (List.mem_cons.1 marked).resolve_left (Ne.symm isMark)
        exact inductionHypothesis later (List.cons.inj same).2

/-- Numbers whose codes are equal are the same if there is a run to show them. -/
theorem eq_of_fillRuns_eq
    {m n : Nat}
    (marked : '#' ∈ text)
    (same : fillRuns (Numeral.ofNat m) 0 text = fillRuns (Numeral.ofNat n) 0 text) :
    m = n := by
  obtain ⟨width, padded⟩ :
      ∃ width,
        Numeral.padLeft width '0' (Numeral.ofNat m) =
          Numeral.padLeft width '0' (Numeral.ofNat n) := by
    rcases le_total (Numeral.ofNat m).length (Numeral.ofNat n).length with le | le
    · exact exists_padLeft_eq_of_length_le le marked same
    · obtain ⟨width, padded⟩ := exists_padLeft_eq_of_length_le le marked same.symm
      exact ⟨width, padded.symm⟩
  have values := congrArg Numeral.valueOf padded
  rwa [Numeral.valueOf_padLeft, Numeral.valueOf_padLeft, Numeral.valueOf_ofNat,
    Numeral.valueOf_ofNat] at values

/-- The fields of the date leave the number signs of a pattern. -/
theorem mark_mem_replaceFields
    {fields : List (Text × Text)}
    (unmarked : ∀ field ∈ fields, '#' ∉ field.1)
    (marked : '#' ∈ pattern) :
    '#' ∈ Date.replaceFields fields pattern := by
  induction fields generalizing pattern with
  | nil => exact marked
  | cons field others inductionHypothesis =>
      rw [List.forall_mem_cons] at unmarked
      exact inductionHypothesis unmarked.2 (Text.mem_replaceAll unmarked.1 marked field.2)

/--
By a pattern with a run of number signs, no two rows of a batch get the same lot code; and
every row gets one unless its number has too many digits.
-/
theorem callFunction_lot_distinct
    {other : Context}
    (row : Row)
    (marked : '#' ∈ pattern)
    (sameMoment : context.now = other.now)
    (different : context.rowIndex ≠ other.rowIndex) :
    (∀ code, callFunction Builtin.lot.name [pattern] row context = .ok code →
      callFunction Builtin.lot.name [pattern] row other ≠ .ok code) ∧
    (Succeeds (callFunction Builtin.lot.name [pattern] row context) ↔
      context.rowIndex + 1 < 10 ^ Numeral.digitLimit) := by
  have nonempty : pattern ≠ [] := List.ne_nil_of_mem marked
  have fields : ∀ field ∈ lotFields other.now.date, '#' ∉ field.1 := by
    simp only [lotFields, List.forall_mem_cons]
    decide
  rw [callFunction_lot nonempty, callFunction_lot nonempty, sameMoment]
  constructor
  · intro code made otherMade
    split_ifs at made otherMade
    have same := Except.ok.inj (made.trans otherMade.symm)
    have next := eq_of_fillRuns_eq (mark_mem_replaceFields fields marked) same
    omega
  · split_ifs with short
    · exact iff_of_true (.ok _) short
    · exact iff_of_false (Succeeds.not_error _) short

/-- A number that outgrows its run next to digits of the date does not repeat a code. -/
theorem callFunction_lot_distinct_outgrown :
    let date : Date := ⟨2026, 3, 15, by decide, by decide, by decide⟩
    let pattern := "1#AA##".toList
    callFunction Builtin.lot.name [pattern] [] ⟨1, 20, .midnight date⟩ = .ok "122602".toList ∧
      callFunction Builtin.lot.name [pattern] [] ⟨11, 20, .midnight date⟩ ≠
        .ok "122602".toList := by
  intro date pattern
  have made :
      callFunction Builtin.lot.name [pattern] [] ⟨1, 20, .midnight date⟩ = .ok "122602".toList := by
    decide +kernel
  have marked : '#' ∈ pattern := by decide
  obtain ⟨distinct, -⟩ :
      (∀ code, callFunction Builtin.lot.name [pattern] [] ⟨1, 20, .midnight date⟩ = .ok code →
        callFunction Builtin.lot.name [pattern] [] ⟨11, 20, .midnight date⟩ ≠ .ok code) ∧ _ :=
    callFunction_lot_distinct [] marked rfl (by decide)
  exact ⟨made, distinct _ made⟩

end

end Builtin
end LabelPress
