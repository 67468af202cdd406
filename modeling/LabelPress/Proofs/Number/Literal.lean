import LabelPress.Number.Literal

/-!
# The characters of numbers

Reading a number literal takes number characters off a text and leaves the rest as it
is.  Main statement: a text that is a number as a whole consists of number characters.
-/

namespace LabelPress

/-- A character of numbers: a digit of any script, a sign, a point or a power mark. -/
def isNumberChar (c : Char) : Bool :=
  Text.isDigit c || ['+', '-', '.', 'e', 'E'].contains c

namespace NumberLiteral

/-- Some number characters stand between the start of a text and its rest. -/
def Consumes (text rest : Text) : Prop :=
  ∃ front, (∀ c ∈ front, isNumberChar c) ∧ text = front ++ rest

/-- Nothing is consumed. -/
theorem Consumes.refl (text : Text) : Consumes text text :=
  ⟨[], by simp, rfl⟩

/-- One number character is consumed before others. -/
theorem Consumes.cons
    {c : Char}
    {text rest : Text}
    (number : isNumberChar c)
    (consumes : Consumes text rest) :
    Consumes (c :: text) rest := by
  obtain ⟨front, each, rfl⟩ := consumes
  refine ⟨c :: front, ?_, rfl⟩
  intro d member
  rcases List.mem_cons.1 member with rfl | later
  · exact number
  · exact each d later

/-- What is consumed up to a rest and then from it is consumed together. -/
theorem Consumes.trans
    {text middle rest : Text}
    (first : Consumes text middle)
    (second : Consumes middle rest) :
    Consumes text rest := by
  obtain ⟨front, each, rfl⟩ := first
  obtain ⟨back, eachBack, rfl⟩ := second
  refine ⟨front ++ back, ?_, (List.append_assoc ..).symm⟩
  intro c member
  rcases List.mem_append.1 member with before | behind
  · exact each c before
  · exact eachBack c behind

/-- Taking a sign consumes number characters. -/
theorem consumes_scanSign (text : Text) :
    Consumes text (scanSign text).2 := by
  unfold scanSign
  split
  · exact .cons (by decide) (.refl _)
  · exact .cons (by decide) (.refl _)
  · exact .refl _

/-- Taking digits consumes number characters. -/
theorem consumes_scanDigits (text : Text) :
    Consumes text (scanDigits text).2 := by
  induction text with
  | nil => exact .refl _
  | cons c rest inductionHypothesis =>
      unfold scanDigits
      split
      · exact .refl _
      · rename_i digit found
        exact .cons (by simp [isNumberChar, Text.isDigit, found]) inductionHypothesis

/-- Taking a fraction consumes number characters. -/
theorem consumes_scanFraction (text : Text) :
    Consumes text (scanFraction text).2 := by
  unfold scanFraction
  split
  · rename_i rest
    have digits := consumes_scanDigits rest
    split
    · exact .refl _
    · exact .cons (by decide) digits
  · exact .refl _

/-- Taking an exponent consumes number characters. -/
theorem consumes_scanExponent (text : Text) :
    Consumes text (scanExponent text).2.2 := by
  unfold scanExponent
  split
  · rename_i c rest
    split
    · rename_i mark
      have number : isNumberChar c := by
        rcases mark with rfl | rfl <;> decide
      have digits :=
        (consumes_scanSign rest).trans (consumes_scanDigits (scanSign rest).2)
      dsimp only
      split
      · exact .refl _
      · exact .cons number digits
    · exact .refl _
  · exact .refl _

/-- A literal is a sign, digits, and what of a fraction and an exponent stands behind them. -/
theorem scan?_eq_some_iff
    {text rest : Text}
    {literal : NumberLiteral} :
    scan? text = some (literal, rest) ↔
      ∃ afterWhole,
        (scanSign text).1 = literal.negative ∧
        scanDigits (scanSign text).2 = (literal.whole, afterWhole) ∧
        literal.whole ≠ [] ∧
        (scanFraction afterWhole).1 = literal.fraction ∧
        scanExponent (scanFraction afterWhole).2 =
          (literal.exponentNegative, literal.exponent, rest) := by
  unfold scan?
  dsimp only
  rcases scanDigits (scanSign text).2 with ⟨_ | ⟨digit, digits⟩, afterWhole⟩
  · refine iff_of_false nofun ?_
    rintro ⟨_, -, scanned, nonempty, -⟩
    exact nonempty (congrArg Prod.fst scanned).symm
  · obtain ⟨negative, whole, fraction, exponentNegative, exponent⟩ := literal
    simp only [Option.some.injEq, Prod.mk.injEq, NumberLiteral.mk.injEq]
    constructor
    · rintro ⟨⟨sign, rfl, point, power, powerDigits⟩, remains⟩
      exact ⟨afterWhole, sign, ⟨rfl, rfl⟩, List.cons_ne_nil _ _, point,
        Prod.ext power (Prod.ext powerDigits remains)⟩
    · rintro ⟨_, sign, ⟨rfl, rfl⟩, -, point, power⟩
      exact ⟨⟨sign, rfl, point, congrArg Prod.fst power, congrArg (·.2.1) power⟩,
        congrArg (·.2.2) power⟩

/-- Taking a literal consumes number characters. -/
theorem consumes_of_scan?
    {text rest : Text}
    {literal : NumberLiteral}
    (found : scan? text = some (literal, rest)) :
    Consumes text rest := by
  obtain ⟨afterWhole, -, digits, -, -, exponent⟩ := scan?_eq_some_iff.1 found
  have whole := consumes_scanDigits (scanSign text).2
  have power := consumes_scanExponent (scanFraction afterWhole).2
  rw [digits] at whole
  rw [exponent] at power
  exact (((consumes_scanSign text).trans whole).trans (consumes_scanFraction afterWhole)).trans
    power

end NumberLiteral

open NumberLiteral

theorem parseNumber?_eq_some_iff
    {text : Text}
    {number : Double} :
    parseNumber? text = some number ↔
      ∃ literal, scan? text = some (literal, []) ∧ literal.value = number := by
  unfold parseNumber?
  split
  · rename_i literal found
    simp [found]
  · rename_i incomplete
    refine iff_of_false nofun ?_
    rintro ⟨literal, found, -⟩
    exact incomplete literal found

/-- A text that is a number as a whole consists of number characters. -/
theorem isNumberChar_of_parseNumber?
    {text : Text}
    (number : (parseNumber? text).isSome) :
    ∀ c ∈ text, isNumberChar c := by
  obtain ⟨double, parsed⟩ := Option.isSome_iff_exists.1 number
  obtain ⟨literal, found, -⟩ := parseNumber?_eq_some_iff.1 parsed
  obtain ⟨front, each, parted⟩ := consumes_of_scan? found
  rw [List.append_nil] at parted
  rw [parted]
  exact each

/-- A text that starts with neither a sign nor a digit is no number. -/
theorem parseNumber?_cons_eq_none
    {c : Char}
    {rest : Text}
    (unsigned : c ≠ '+' ∧ c ≠ '-')
    (noDigit : Text.digitValue? c = none) :
    parseNumber? (c :: rest) = none := by
  have sign : scanSign (c :: rest) = (false, c :: rest) := by
    unfold scanSign
    split
    · simp_all
    · simp_all
    · rfl
  simp [parseNumber?, scan?, sign, scanDigits, noDigit]

/-- The empty text is no number. -/
theorem parseNumber?_nil : parseNumber? [] = none := rfl

end LabelPress
