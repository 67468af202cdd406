import LabelPress.Calendar.Pattern
import LabelPress.Proofs.Calendar.Date
import LabelPress.Proofs.Calendar.Pass
import LabelPress.Proofs.Expr.Mark
import LabelPress.Proofs.Number.Numeral
import LabelPress.Proofs.Text.Trim

/-!
# Dates as texts

How the year-month-day form of a date is read and written.  Main statements: a date has one
such text in ten ASCII characters, which is no number and is ordered among the others as the
date is, and what the pattern of that form writes for a date is read back exactly if its year
has four digits.
-/

namespace LabelPress

/-! ## Fields of digits -/

/-- A text of a given number of digits that denotes a number. -/
structure Numeral.IsField
    (width n : Nat)
    (text : Text) : Prop where
  length_eq : text.length = width
  digits : Text.AllDigits text
  denotes : Numeral.valueOf text = n

namespace Numeral

variable {width n : Nat} {text : Text}

theorem isField_padLeft
    (positive : 0 < width)
    (bound : n < 10 ^ width) :
    IsField width n (padLeft width '0' (ofNat n)) where
  length_eq := length_padLeft_ofNat positive bound
  digits := .ofAscii (isDigit_of_mem_padLeft fun _ => isDigit_of_mem_ofNat)
  denotes := by rw [valueOf_padLeft, valueOf_ofNat]

theorem IsField.bound
    (field : IsField width n text) :
    n < 10 ^ width := by
  rw [← field.denotes, ← field.length_eq]
  exact valueOf_lt_pow field.digits

/-- Only one text of a number of ASCII digits denotes a number. -/
theorem IsField.eq_padLeft
    (field : IsField width n text)
    (ascii : ∀ c ∈ text, c.toNat < 128)
    (positive : 0 < width) :
    text = padLeft width '0' (ofNat n) := by
  have padded := isField_padLeft positive field.bound
  apply eq_of_valueOf_eq
  · exact fun c member => Text.isDigit_of_ascii (ascii c member) (field.digits c member)
  · exact isDigit_of_mem_padLeft fun _ => isDigit_of_mem_ofNat
  · rw [field.length_eq, padded.length_eq]
  · rw [field.denotes, padded.denotes]

theorem padLeft_lt_padLeft
    {other : Nat}
    (positive : 0 < width)
    (lt : n < other)
    (bound : other < 10 ^ width) :
    padLeft width '0' (ofNat n) < padLeft width '0' (ofNat other) := by
  have left := isField_padLeft positive (lt.trans bound)
  have right := isField_padLeft positive bound
  apply lt_of_valueOf_lt
  · exact isDigit_of_mem_padLeft fun _ => isDigit_of_mem_ofNat
  · exact isDigit_of_mem_padLeft fun _ => isDigit_of_mem_ofNat
  · rw [left.length_eq, right.length_eq]
  · rw [left.denotes, right.denotes]
    exact lt

/-- A numeral with all its digits is not padded. -/
theorem padLeft_ofNat_eq_self
    (large : 10 ^ width ≤ n) :
    padLeft (width + 1) '0' (ofNat n) = ofNat n := by
  have long : width < (ofNat n).length := by
    rcases Nat.eq_zero_or_pos width with rfl | positive
    · exact List.length_pos_iff.2 (ofNat_ne_nil n)
    · rw [← not_le, ofNat, Nat.length_toDigits_le_iff (by decide) positive]
      exact not_lt.2 large
  exact padLeft_of_length_le long '0'

end Numeral

/-- Texts of one length are ordered before what stands behind them is looked at. -/
theorem Text.append_lt_append
    {left right : Text}
    (sameLength : left.length = right.length)
    (lt : left < right)
    (leftRest rightRest : Text) :
    left ++ leftRest < right ++ rightRest := by
  induction left generalizing right with
  | nil =>
      rw [List.length_nil, eq_comm, List.length_eq_zero_iff] at sameLength
      rw [sameLength] at lt
      exact absurd lt (lt_irrefl _)
  | cons c left inductionHypothesis =>
      cases right with
      | nil => cases sameLength
      | cons d right =>
          rcases List.cons_lt_cons_iff.1 lt with below | ⟨rfl, below⟩
          · exact List.Lex.rel below
          · exact List.Lex.cons (inductionHypothesis (Nat.succ.inj sameLength) below)

namespace Date

variable {date : Date} {text rest : Text}

/-! ## Reading -/

theorem takeDigits?_eq_some_iff
    {count : Nat}
    {values : List Nat} :
    takeDigits? count text = some (values, rest) ↔
      ∃ front, front.length = count ∧ Text.AllDigits front ∧
        Text.digitValues front = values ∧ front ++ rest = text := by
  induction count generalizing text values with
  | zero =>
      simp only [takeDigits?, Option.some.injEq, Prod.mk.injEq, List.length_eq_zero_iff]
      constructor
      · rintro ⟨rfl, rfl⟩
        exact ⟨[], rfl, by decide, rfl, rfl⟩
      · rintro ⟨front, rfl, -, rfl, rfl⟩
        exact ⟨rfl, rfl⟩
  | succ count inductionHypothesis =>
      cases text with
      | nil =>
          constructor
          · intro found
            cases found
          · rintro ⟨front, length, -, -, parted⟩
            rw [(List.append_eq_nil_iff.1 parted).1] at length
            cases length
      | cons c tail =>
          simp only [takeDigits?, Option.bind_eq_bind, Option.bind_eq_some_iff, Option.pure_def,
            Option.some.injEq, Prod.mk.injEq]
          constructor
          · rintro ⟨digit, found, ⟨others, behind⟩, taken, rfl, rfl⟩
            obtain ⟨front, rfl, digits, rfl, rfl⟩ := inductionHypothesis.1 taken
            have first : Text.isDigit c := Option.isSome_iff_exists.2 ⟨digit, found⟩
            exact ⟨c :: front, rfl, List.forall_mem_cons.2 ⟨first, digits⟩,
              by simp [Text.digitValues, found], rfl⟩
          · rintro ⟨front, length, digits, values, parted⟩
            obtain ⟨d, others, rfl⟩ := List.exists_cons_of_length_eq_add_one length
            obtain ⟨rfl, rfl⟩ := List.cons.inj parted
            obtain ⟨digit, found, -, later, listed⟩ := digits.digitValues_cons
            refine ⟨digit, found, (Text.digitValues others, rest), ?_, ?_, rfl⟩
            · exact inductionHypothesis.2 ⟨others, Nat.succ.inj length, later, rfl, rfl⟩
            · rw [← listed, values]

theorem takeChar?_eq_some_iff
    {c : Char} :
    takeChar? c text = some rest ↔ c :: rest = text := by
  cases text with
  | nil => simp [takeChar?]
  | cons d tail =>
      simp only [takeChar?, List.cons.injEq]
      split_ifs with same
      · simp [same, eq_comm]
      · simp [Ne.symm same]

/-- What is read of a text: four digits, two and two with hyphens between them. -/
theorem scanIso?_eq_some_iff
    {found : Option Date} :
    scanIso? text = some (found, rest) ↔
      ∃ y m d year month day, Numeral.IsField 4 y year ∧ Numeral.IsField 2 m month ∧
        Numeral.IsField 2 d day ∧
        year ++ '-' :: (month ++ '-' :: (day ++ rest)) = text ∧ ofYearMonthDay? y m d = found := by
  simp only [scanIso?, Option.bind_eq_bind, Option.bind_eq_some_iff, Prod.exists,
    takeDigits?_eq_some_iff, takeChar?_eq_some_iff, Option.pure_def, Option.some.injEq,
    Prod.mk.injEq]
  constructor
  · rintro ⟨_, _, ⟨year, yearLength, yearDigits, rfl, rfl⟩, _, rfl,
      _, _, ⟨month, monthLength, monthDigits, rfl, rfl⟩, _, rfl,
      _, _, ⟨day, dayLength, dayDigits, rfl, rfl⟩, rfl, rfl⟩
    exact ⟨_, _, _, year, month, day, ⟨yearLength, yearDigits, rfl⟩,
      ⟨monthLength, monthDigits, rfl⟩, ⟨dayLength, dayDigits, rfl⟩, rfl, rfl⟩
  · rintro ⟨_, _, _, year, month, day, ⟨yearLength, yearDigits, rfl⟩,
      ⟨monthLength, monthDigits, rfl⟩, ⟨dayLength, dayDigits, rfl⟩, rfl, rfl⟩
    exact ⟨_, _, ⟨year, yearLength, yearDigits, rfl, rfl⟩, _, rfl,
      _, _, ⟨month, monthLength, monthDigits, rfl, rfl⟩, _, rfl,
      _, _, ⟨day, dayLength, dayDigits, rfl, rfl⟩, rfl, rfl⟩

/-- A text between blanks is a date if it has the fields of one. -/
theorem parse?_eq_some_iff :
    parse? text = some date ↔
      ∃ year month day, Numeral.IsField 4 date.year year ∧ Numeral.IsField 2 date.month month ∧
        Numeral.IsField 2 date.day day ∧
        Text.trim text = year ++ '-' :: (month ++ '-' :: day) := by
  have scanned :
      parse? text = some date ↔ scanIso? (Text.trim text) = some (some date, []) := by
    unfold parse?
    split
    · rename_i found whole
      simp [whole]
    · rename_i other
      simpa using other (some date)
  rw [scanned, scanIso?_eq_some_iff]
  constructor
  · rintro ⟨y, m, d, year, month, day, isYear, isMonth, isDay, whole, found⟩
    obtain ⟨rfl, rfl, rfl⟩ := ofYearMonthDay?_eq_some_iff.1 found
    exact ⟨year, month, day, isYear, isMonth, isDay, by simpa using whole.symm⟩
  · rintro ⟨year, month, day, isYear, isMonth, isDay, whole⟩
    exact ⟨_, _, _, year, month, day, isYear, isMonth, isDay, by simp [whole],
      ofYearMonthDay?_eq_some_iff.2 ⟨rfl, rfl, rfl⟩⟩

/-! ## The text of a date -/

theorem isField_year (date : Date) :
    Numeral.IsField 4 date.year (Numeral.fourDigits date.year) :=
  Numeral.isField_padLeft (by decide) (by have := date.year_mem.2; omega)

theorem isField_month (date : Date) :
    Numeral.IsField 2 date.month (Numeral.twoDigits date.month) :=
  Numeral.isField_padLeft (by decide) (by have := date.month_mem.2; omega)

theorem day_lt (date : Date) :
    date.day < 10 ^ 2 := by
  have inMonth := date.day_mem.2
  unfold daysInMonth at inMonth
  split_ifs at inMonth <;> omega

theorem isField_day (date : Date) :
    Numeral.IsField 2 date.day (Numeral.twoDigits date.day) :=
  Numeral.isField_padLeft (by decide) date.day_lt

theorem isoText_eq (date : Date) :
    date.isoText = Numeral.fourDigits date.year ++
      '-' :: (Numeral.twoDigits date.month ++ '-' :: Numeral.twoDigits date.day) := by
  rw [isoText, List.append_assoc, List.cons_append]

/-- A character that dates are written with: an ASCII digit or a hyphen. -/
def isIsoChar (c : Char) : Bool :=
  c.isDigit || c == '-'

theorem isIsoChar_of_mem_padLeft
    {width n : Nat} :
    ∀ c ∈ Numeral.padLeft width '0' (Numeral.ofNat n), isIsoChar c := by
  intro c member
  rw [isIsoChar, Numeral.isDigit_of_mem_padLeft (fun _ => Numeral.isDigit_of_mem_ofNat) c member,
    Bool.true_or]

theorem isIsoChar_of_mem_isoText :
    ∀ c ∈ date.isoText, isIsoChar c := by
  rw [isoText_eq]
  intro c member
  simp only [List.mem_append, List.mem_cons] at member
  rcases member with year | rfl | month | rfl | day
  · exact isIsoChar_of_mem_padLeft c year
  · decide
  · exact isIsoChar_of_mem_padLeft c month
  · decide
  · exact isIsoChar_of_mem_padLeft c day

/-- The characters that dates are written with are among those of numbers. -/
theorem isNumberChar_of_isIsoChar
    {c : Char}
    (isIso : isIsoChar c) :
    isNumberChar c := by
  rcases Bool.or_eq_true_iff.1 isIso with digit | hyphen
  · rw [isNumberChar, Text.isDigit, Text.digitValue?_of_isDigit digit]
    rfl
  · rw [eq_of_beq hyphen]
    decide

theorem ascii_of_isIsoChar
    {c : Char}
    (isIso : isIsoChar c) :
    c.toNat < 128 := by
  rcases Bool.or_eq_true_iff.1 isIso with digit | hyphen
  · have bounds := Text.toNat_bounds_of_isDigit digit
    omega
  · rw [eq_of_beq hyphen]
    decide

theorem length_isoText (date : Date) :
    date.isoText.length = 10 := by
  rw [isoText_eq, List.length_append, List.length_cons, List.length_append, List.length_cons,
    date.isField_year.length_eq, date.isField_month.length_eq, date.isField_day.length_eq]

theorem trim_isoText (date : Date) :
    Text.trim date.isoText = date.isoText :=
  Text.trim_eq_self fun c member =>
    isBlank_eq_false_of_isNumberChar (isNumberChar_of_isIsoChar (isIsoChar_of_mem_isoText c member))

/-- The text of a date is no number: a hyphen stands behind its first digits. -/
theorem parseNumber?_isoText (date : Date) :
    parseNumber? date.isoText = none := by
  have year := date.isField_year
  have nonempty : Numeral.fourDigits date.year ≠ [] :=
    List.ne_nil_of_length_eq_add_one year.length_eq
  rw [isoText_eq]
  exact NumberLiteral.parseNumber?_append_hyphen nonempty year.digits _

theorem parse?_isoText (date : Date) :
    parse? date.isoText = some date :=
  parse?_eq_some_iff.2 ⟨_, _, _, date.isField_year, date.isField_month, date.isField_day,
    by rw [trim_isoText, isoText_eq]⟩

/-- Between its blanks an ASCII text that is read as a date is the text of that date. -/
theorem trim_eq_isoText
    (ascii : ∀ c ∈ text, c.toNat < 128)
    (parsed : parse? text = some date) :
    Text.trim text = date.isoText := by
  obtain ⟨year, month, day, isYear, isMonth, isDay, trimmed⟩ := parse?_eq_some_iff.1 parsed
  have inside : ∀ c ∈ Text.trim text, c.toNat < 128 := fun c member =>
    ascii c ((Text.trim_isInfix text).subset member)
  rw [trimmed] at inside
  simp only [List.mem_append, List.mem_cons] at inside
  have yearText := isYear.eq_padLeft (fun c member => inside c (by tauto)) (by decide)
  have monthText := isMonth.eq_padLeft (fun c member => inside c (by tauto)) (by decide)
  have dayText := isDay.eq_padLeft (fun c member => inside c (by tauto)) (by decide)
  rw [trimmed, isoText_eq, yearText, monthText, dayText]
  rfl

/-- A date is written in ten ASCII characters that are read as it. -/
structure IsIso
    (text : Text)
    (date : Date) : Prop where
  ascii : ∀ c ∈ text, c.toNat < 128
  tenCharacters : text.length = 10
  parsed : parse? text = some date

/-- A date has one text in ten ASCII characters. -/
theorem isIso_iff :
    IsIso text date ↔ text = date.isoText := by
  constructor
  · rintro ⟨ascii, tenCharacters, parsed⟩
    have trimmed := trim_eq_isoText ascii parsed
    have size : (Text.trim text).length = text.length := by
      rw [trimmed, tenCharacters, length_isoText]
    rw [← trimmed, (Text.trim_isInfix text).eq_of_length size]
  · rintro rfl
    exact ⟨fun c member => ascii_of_isIsoChar (isIsoChar_of_mem_isoText c member),
      date.length_isoText, date.parse?_isoText⟩

/-- The texts of dates are ordered as the dates are. -/
theorem isoText_strictMono :
    StrictMono isoText := by
  intro date other lt
  have fixed {width n m : Nat} {left right : Text}
      (leftField : Numeral.IsField width n left)
      (rightField : Numeral.IsField width m right) :
      left.length = right.length :=
    leftField.length_eq.trans rightField.length_eq.symm
  have yearBound := other.isField_year.bound
  have monthBound := other.isField_month.bound
  rw [isoText_eq, isoText_eq]
  rcases lt_iff.1 lt with year | ⟨year, month | ⟨month, day⟩⟩
  · exact Text.append_lt_append (fixed date.isField_year other.isField_year)
      (Numeral.padLeft_lt_padLeft (by decide) year yearBound) _ _
  · rw [year]
    refine List.append_left_lt (List.Lex.cons ?_)
    exact Text.append_lt_append (fixed date.isField_month other.isField_month)
      (Numeral.padLeft_lt_padLeft (by decide) month monthBound) _ _
  · rw [year, month]
    refine List.append_left_lt (List.Lex.cons (List.append_left_lt (List.Lex.cons ?_)))
    exact Numeral.padLeft_lt_padLeft (by decide) day other.day_lt

/-! ## Writing by the pattern of the form -/

/-- The pattern of year, month and day with hyphens between them. -/
def isoPattern : Text :=
  "AAAA-MM-DD".toList

/-- The pattern writes the form that is read, but for a year of fewer digits. -/
theorem format_isoPattern (date : Date) :
    date.format isoPattern = date.yearText ++
      '-' :: (Numeral.twoDigits date.month ++ '-' :: Numeral.twoDigits date.day) := by
  let pass := Text.fillTokens (Text.fieldAt? date.patternFields)
  have year : Text.fieldAt? date.patternFields isoPattern = some ⟨4, date.yearText⟩ := rfl
  have month :
      Text.fieldAt? date.patternFields "MM-DD".toList =
        some ⟨2, Numeral.twoDigits date.month⟩ := rfl
  have day :
      Text.fieldAt? date.patternFields "DD".toList = some ⟨2, Numeral.twoDigits date.day⟩ := rfl
  have yearFilled : pass isoPattern = date.yearText ++ pass "-MM-DD".toList :=
    Text.fillTokens_cons_of_some year
  have firstHyphen : pass "-MM-DD".toList = '-' :: pass "MM-DD".toList :=
    Text.fillTokens_cons_of_none rfl
  have monthFilled : pass "MM-DD".toList = Numeral.twoDigits date.month ++ pass "-DD".toList :=
    Text.fillTokens_cons_of_some month
  have secondHyphen : pass "-DD".toList = '-' :: pass "DD".toList :=
    Text.fillTokens_cons_of_none rfl
  have dayFilled : pass "DD".toList = Numeral.twoDigits date.day ++ pass [] :=
    Text.fillTokens_cons_of_some day
  have ended : pass [] = [] := Text.fillTokens_nil
  calc
    date.format isoPattern = pass isoPattern := date.format_eq_fillTokens isoPattern
    _ = _ := by
      rw [yearFilled, firstHyphen, monthFilled, secondHyphen, dayFilled, ended, List.append_nil]

/-- A date of a year with four digits is written as the text that is read back. -/
theorem format_isoPattern_eq_isoText
    (fourDigits : 1000 ≤ date.year) :
    date.format isoPattern = date.isoText := by
  have year : Numeral.fourDigits date.year = date.yearText :=
    Numeral.padLeft_ofNat_eq_self fourDigits
  rw [format_isoPattern, isoText_eq, year]

/-! ## Reading what the pattern writes -/

theorem length_le_of_parse?
    (parsed : parse? text = some date) :
    10 ≤ text.length := by
  obtain ⟨year, month, day, isYear, isMonth, isDay, trimmed⟩ := parse?_eq_some_iff.1 parsed
  have bound := Text.length_trim_le text
  rw [trimmed, List.length_append, List.length_cons, List.length_append, List.length_cons,
    isYear.length_eq, isMonth.length_eq, isDay.length_eq] at bound
  exact bound

/-- A year of fewer digits is written without zeros, which leaves the text too short. -/
theorem length_format_isoPattern_lt
    (fewDigits : date.year < 1000) :
    (date.format isoPattern).length < 10 := by
  have year : date.yearText.length ≤ 3 := Numeral.length_ofNat_le (by decide) fewDigits
  rw [format_isoPattern, List.length_append, List.length_cons, List.length_append,
    List.length_cons, date.isField_month.length_eq, date.isField_day.length_eq]
  omega

/--
What the pattern of year, month and day writes is read back exactly for a year with four
digits, and exactly then it is the text, but for blanks around it, that a date is read from.
-/
theorem parse?_format_isoPattern (date : Date) :
    parse? (date.format isoPattern) = (if 1000 ≤ date.year then some date else none) ∧
      ∀ text : Text, (∀ c ∈ text, c.toNat < 128) → parse? text = some date →
        (date.format isoPattern = Text.trim text ↔ 1000 ≤ date.year) := by
  have short (fewDigits : ¬ 1000 ≤ date.year) :=
    length_format_isoPattern_lt (not_le.1 fewDigits)
  constructor
  · split_ifs with fourDigits
    · rw [format_isoPattern_eq_isoText fourDigits, parse?_isoText]
    · refine Option.eq_none_iff_forall_ne_some.2 fun other read => ?_
      have long := length_le_of_parse? read
      have less := short fourDigits
      omega
  · intro text ascii read
    rw [trim_eq_isoText ascii read]
    constructor
    · intro same
      by_contra fewDigits
      have less := short fewDigits
      rw [same, length_isoText] at less
      omega
    · exact format_isoPattern_eq_isoText

/-- Blanks around the text of a leap day do not count. -/
theorem parse?_format_isoPattern_leapDay :
    let date : Date := ⟨2024, 2, 29, by decide, by decide, by decide⟩
    parse? (date.format isoPattern) = some date ∧
      date.format isoPattern = Text.trim "\t 2024-02-29\n".toList := by
  intro date
  obtain ⟨reads, writes⟩ := parse?_format_isoPattern date
  exact ⟨reads.trans (if_pos (by decide)),
    (writes "\t 2024-02-29\n".toList (by decide) (by decide)).2 (by decide)⟩

/-- The first day of the year 999 is read with a zero and written without one. -/
theorem format_isoPattern_of_three_digits :
    let date : Date := ⟨999, 1, 1, by decide, by decide, by decide⟩
    parse? "0999-01-01".toList = some date ∧
      date.format isoPattern = "999-01-01".toList ∧
      date.format isoPattern ≠ Text.trim "0999-01-01".toList ∧
      parse? (date.format isoPattern) ≠ some date := by
  intro date
  have written : date.format isoPattern = "999-01-01".toList := by
    rw [format_isoPattern]
    decide
  rw [written]
  decide

end Date
end LabelPress
