import LabelPress.Calendar.Pattern
import LabelPress.Proofs.Number.Numeral
import LabelPress.Proofs.Text.Pass

/-!
# Date patterns in one pass

The fields of a pattern are replaced one after the other.  Main statement: this comes to one
pass over the pattern that takes the longest field at each place, so that no part of a date
that has been put in is ever replaced again.

A field is a run of a letter and becomes digits, which stand in no field, and of two runs of
the same letter the longer one is replaced first.
-/

namespace LabelPress
namespace Date

/-- A field that becomes a number: a run of a character that is no digit, and digits. -/
structure IsNumberField
    (word value : Text) : Prop where
  isRun : Text.IsRun word
  letters : ∀ c ∈ word, c.isDigit = false
  filled : value ≠ []
  digits : ∀ c ∈ value, c.isDigit

/-- Fields that can be replaced one after the other: none begins with an earlier one. -/
structure Separable (fields : List (Text × Text)) : Prop where
  each : ∀ field ∈ fields, IsNumberField field.1 field.2
  longerFirst : fields.Pairwise fun field later => ¬ field.1 <+: later.1

section
variable {fields : List (Text × Text)} {tokenAt? : Text → Option Text.Token}

/-- No field starts with a digit. -/
theorem fieldAt?_cons_of_isDigit
    {c : Char}
    (each : ∀ field ∈ fields, IsNumberField field.1 field.2)
    (digit : c.isDigit)
    (rest : Text) :
    Text.fieldAt? fields (c :: rest) = none := by
  apply Text.fieldAt?_cons_of_not_mem (fun field member => (each field member).isRun.ne_nil)
  intro field member inside
  rw [(each field member).letters c inside] at digit
  cases digit

/-- Fields that are replaced before a pass are the first choices of the pass. -/
theorem fillTokens_replaceFields
    (separable : Separable fields)
    (byRuns : Text.ByRuns tokenAt?)
    (digitless : ∀ c, c.isDigit → ∀ rest, tokenAt? (c :: rest) = none)
    (text : Text) :
    Text.fillTokens tokenAt? (replaceFields fields text) =
      Text.fillTokens (fun text => (Text.fieldAt? fields text).or (tokenAt? text)) text := by
  obtain ⟨each, longerFirst⟩ := separable
  induction fields generalizing text with
  | nil => rfl
  | cons field others inductionHypothesis =>
      rw [List.forall_mem_cons] at each
      rw [List.pairwise_cons] at longerFirst
      have othersByRuns :
          Text.ByRuns fun text => (Text.fieldAt? others text).or (tokenAt? text) :=
        (Text.ByRuns.fieldAt? fun field member => (each.2 field member).isRun).or byRuns
      have apart : ∀ c ∈ field.2, ∀ rest,
          (Text.fieldAt? others (c :: rest)).or (tokenAt? (c :: rest)) = none := by
        intro c member rest
        have digit := each.1.digits c member
        rw [fieldAt?_cons_of_isDigit each.2 digit, digitless c digit, Option.none_or]
      calc
        Text.fillTokens tokenAt? (replaceFields (field :: others) text) =
            Text.fillTokens tokenAt?
              (replaceFields others (Text.replaceAll field.1 field.2 text)) := rfl
        _ = Text.fillTokens (fun text => (Text.fieldAt? others text).or (tokenAt? text))
              (Text.replaceAll field.1 field.2 text) :=
          inductionHypothesis _ each.2 longerFirst.2
        _ = Text.fillTokens (fun text => (Text.fieldAt? [field] text).or
              ((Text.fieldAt? others text).or (tokenAt? text))) text :=
          Text.fillTokens_replaceAll othersByRuns each.1.isRun each.1.filled apart text
        _ = _ := by
          simp only [Text.fieldAt?_cons longerFirst.1, Option.or_assoc]

/-- Replacing fields one after the other is one pass that takes the longest at each place. -/
theorem replaceFields_eq_fillTokens
    (separable : Separable fields)
    (pattern : Text) :
    replaceFields fields pattern = Text.fillTokens (Text.fieldAt? fields) pattern := by
  have passed := fillTokens_replaceFields separable Text.ByRuns.none (fun _ _ _ => rfl) pattern
  simpa only [Text.fillTokens_none, Option.or_none] using passed

end

/-! ## The fields of a date -/

variable (date : Date)

theorem isDigit_of_mem_yearText :
    ∀ c ∈ date.yearText, c.isDigit :=
  fun _ => Numeral.isDigit_of_mem_ofNat

theorem isDigit_of_mem_shortYearText :
    ∀ c ∈ date.shortYearText, c.isDigit :=
  fun c member => date.isDigit_of_mem_yearText c (List.mem_of_mem_drop member)

theorem shortYearText_ne_nil :
    date.shortYearText ≠ [] := by
  have nonempty := List.length_pos_iff.2 (Numeral.ofNat_ne_nil date.year)
  rw [shortYearText, ← List.length_pos_iff, List.length_drop]
  change 0 < date.yearText.length at nonempty
  omega

theorem isNumberField_of_mem_patternFields :
    ∀ field ∈ date.patternFields, IsNumberField field.1 field.2 := by
  have two (n : Nat) : Numeral.twoDigits n ≠ [] ∧ ∀ c ∈ Numeral.twoDigits n, c.isDigit := by
    refine ⟨List.append_ne_nil_of_right_ne_nil _ (Numeral.ofNat_ne_nil n), ?_⟩
    exact Numeral.isDigit_of_mem_padLeft fun _ => Numeral.isDigit_of_mem_ofNat
  simp only [patternFields, List.forall_mem_cons]
  exact ⟨⟨⟨'D', 1, rfl⟩, by decide, (two _).1, (two _).2⟩,
    ⟨⟨'M', 1, rfl⟩, by decide, (two _).1, (two _).2⟩,
    ⟨⟨'A', 3, rfl⟩, by decide, Numeral.ofNat_ne_nil _, date.isDigit_of_mem_yearText⟩,
    ⟨⟨'A', 1, rfl⟩, by decide, date.shortYearText_ne_nil, date.isDigit_of_mem_shortYearText⟩,
    ⟨⟨'h', 1, rfl⟩, by decide, by decide, by decide⟩,
    ⟨⟨'m', 1, rfl⟩, by decide, by decide, by decide⟩,
    ⟨⟨'s', 1, rfl⟩, by decide, by decide, by decide⟩,
    List.forall_mem_nil _⟩

theorem separable_patternFields :
    Separable date.patternFields where
  each := date.isNumberField_of_mem_patternFields
  longerFirst := by
    simp only [patternFields, List.pairwise_cons, List.forall_mem_cons]
    decide

/-- A date is written by one pass over the pattern. -/
theorem format_eq_fillTokens (pattern : Text) :
    date.format pattern = Text.fillTokens (Text.fieldAt? date.patternFields) pattern :=
  replaceFields_eq_fillTokens date.separable_patternFields pattern

end Date
end LabelPress
