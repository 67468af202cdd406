import LabelPress.Number.Literal
import Mathlib.Data.Char
import Mathlib.Data.List.Lex
import Mathlib.Tactic.Ring

/-!
# Numerals

What a numeral denotes, and what the scanners make of one.  Main statements: the numeral of
a number denotes it, numerals with the same number of ASCII digits are ordered as texts just
as the numbers are that they denote, and the numeral of an integer is read back unless it
has too many digits.
-/

namespace LabelPress

open NumberLiteral

namespace Text

/-- Every character is a decimal digit, of whatever script. -/
def AllDigits (text : Text) : Prop :=
  ∀ c ∈ text, isDigit c

instance (text : Text) : Decidable (AllDigits text) :=
  inferInstanceAs (Decidable (∀ c ∈ text, isDigit c))

theorem exists_digitValue?
    {c : Char}
    (digit : isDigit c) :
    ∃ value, digitValue? c = some value :=
  Option.isSome_iff_exists.1 digit

/-- The value of a digit is less than ten. -/
theorem digitValue?_lt
    {c : Char}
    {value : Nat}
    (found : digitValue? c = some value) :
    value < 10 := by
  obtain ⟨range, -, rfl⟩ := Option.map_eq_some_iff.1 found
  exact Nat.mod_lt _ (by decide)

theorem toNat_bounds_of_isDigit
    {c : Char}
    (digit : c.isDigit) :
    48 ≤ c.toNat ∧ c.toNat ≤ 57 := by
  simp only [Char.isDigit, Bool.and_eq_true, decide_eq_true_eq] at digit
  exact digit

/-- An ASCII digit has the value that its place says. -/
theorem digitValue?_of_isDigit
    {c : Char}
    (digit : c.isDigit) :
    digitValue? c = some (c.toNat - 48) := by
  have bounds := toNat_bounds_of_isDigit digit
  simp only [digitValue?, digitRanges, List.find?_cons, bounds.1, bounds.2, decide_true,
    Bool.and_self, Option.map_some]
  congr 1
  omega

/-- The ASCII characters among the decimal digits are the ASCII digits. -/
theorem isDigit_of_ascii
    {c : Char}
    (ascii : c.toNat < 128)
    (digit : isDigit c) :
    c.isDigit := by
  have each : ∀ code < 128, isDigit (Char.ofNat code) → (Char.ofNat code).isDigit := by decide
  have here := each c.toNat ascii
  rw [Char.ofNat_toNat] at here
  exact here digit

theorem AllDigits.ofAscii
    {text : Text}
    (digits : ∀ c ∈ text, c.isDigit) :
    AllDigits text := by
  intro c member
  rw [isDigit, digitValue?_of_isDigit (digits c member)]
  rfl

theorem AllDigits.digitValues_cons
    {c : Char}
    {rest : Text}
    (digits : AllDigits (c :: rest)) :
    ∃ digit, digitValue? c = some digit ∧ digit < 10 ∧ AllDigits rest ∧
      digitValues (c :: rest) = digit :: digitValues rest := by
  obtain ⟨here, later⟩ := List.forall_mem_cons.1 digits
  obtain ⟨digit, found⟩ := exists_digitValue? here
  exact ⟨digit, found, digitValue?_lt found, later, by simp [digitValues, found]⟩

theorem AllDigits.length_digitValues
    {text : Text}
    (digits : AllDigits text) :
    (digitValues text).length = text.length := by
  induction text with
  | nil => rfl
  | cons c rest inductionHypothesis =>
      obtain ⟨digit, -, -, later, values⟩ := digits.digitValues_cons
      rw [values, List.length_cons, inductionHypothesis later, List.length_cons]

end Text

namespace Numeral

/-- The number that a text of digits denotes. -/
def valueOf (text : Text) : Nat :=
  value (Text.digitValues text)

theorem value_append
    (left right : List Nat) :
    value (left ++ right) = value left * 10 ^ right.length + value right := by
  have shifted (start : Nat) :
      right.foldl (fun total digit => total * 10 + digit) start =
        start * 10 ^ right.length + value right := by
    induction right generalizing start with
    | nil => simp [value]
    | cons digit others inductionHypothesis =>
        have alone := inductionHypothesis (0 * 10 + digit)
        rw [value, List.foldl_cons, List.foldl_cons, inductionHypothesis, alone,
          List.length_cons]
        ring
  rw [value, List.foldl_append]
  exact shifted _

theorem valueOf_append
    (left right : Text) :
    valueOf (left ++ right) =
      valueOf left * 10 ^ (Text.digitValues right).length + valueOf right := by
  rw [valueOf, Text.digitValues, List.filterMap_append, value_append]
  rfl

/-- A digit in front of others counts with the power of ten that they leave it. -/
theorem valueOf_cons
    {c : Char}
    {rest : Text}
    (digits : Text.AllDigits (c :: rest)) :
    ∃ digit, Text.digitValue? c = some digit ∧
      valueOf (c :: rest) = digit * 10 ^ rest.length + valueOf rest := by
  obtain ⟨digit, found, -, later, values⟩ := digits.digitValues_cons
  refine ⟨digit, found, ?_⟩
  have parted := value_append [digit] (Text.digitValues rest)
  rw [later.length_digitValues] at parted
  rw [valueOf, values]
  simpa [value, valueOf] using parted

theorem value_lt_pow
    {digits : List Nat}
    (small : ∀ digit ∈ digits, digit < 10) :
    value digits < 10 ^ digits.length := by
  induction digits with
  | nil => decide
  | cons digit others inductionHypothesis =>
      obtain ⟨here, later⟩ := List.forall_mem_cons.1 small
      have bound := inductionHypothesis later
      have parted := value_append [digit] others
      rw [List.singleton_append] at parted
      calc value (digit :: others) < digit * 10 ^ others.length + 10 ^ others.length := by
            rw [parted]
            simpa [value] using bound
        _ = (digit + 1) * 10 ^ others.length := by ring
        _ ≤ 10 * 10 ^ others.length := Nat.mul_le_mul_right _ here
        _ = 10 ^ (digit :: others).length := by rw [List.length_cons, pow_succ']

theorem valueOf_lt_pow
    {text : Text}
    (digits : Text.AllDigits text) :
    valueOf text < 10 ^ text.length := by
  rw [← digits.length_digitValues]
  apply value_lt_pow
  intro digit member
  obtain ⟨c, -, found⟩ := List.mem_filterMap.1 member
  exact Text.digitValue?_lt found

/-- A greater first digit outweighs all the digits behind it. -/
theorem valueOf_cons_lt
    {c d : Char}
    {left right : Text}
    (leftDigits : ∀ x ∈ c :: left, x.isDigit)
    (rightDigits : ∀ x ∈ d :: right, x.isDigit)
    (sameLength : left.length = right.length)
    (below : c < d) :
    valueOf (c :: left) < valueOf (d :: right) := by
  have leftAll := Text.AllDigits.ofAscii leftDigits
  obtain ⟨first, leftFound, leftValue⟩ := valueOf_cons leftAll
  obtain ⟨second, rightFound, rightValue⟩ := valueOf_cons (.ofAscii rightDigits)
  have small := valueOf_lt_pow (List.forall_mem_cons.1 leftAll).2
  rw [List.forall_mem_cons] at leftDigits rightDigits
  rw [Text.digitValue?_of_isDigit leftDigits.1, Option.some.injEq] at leftFound
  rw [Text.digitValue?_of_isDigit rightDigits.1, Option.some.injEq] at rightFound
  have codes : c.toNat < d.toNat := below
  have leftPlace := Text.toNat_bounds_of_isDigit leftDigits.1
  have grows : first + 1 ≤ second := by omega
  rw [leftValue, rightValue, sameLength]
  rw [sameLength] at small
  calc first * 10 ^ right.length + valueOf left
      < first * 10 ^ right.length + 10 ^ right.length := by omega
    _ = (first + 1) * 10 ^ right.length := by ring
    _ ≤ second * 10 ^ right.length := Nat.mul_le_mul_right _ grows
    _ ≤ second * 10 ^ right.length + valueOf right := Nat.le_add_right _ _

/-- Texts of equally many ASCII digits are ordered as the numbers that they denote. -/
theorem valueOf_lt_of_lt
    {left right : Text}
    (leftDigits : ∀ c ∈ left, c.isDigit)
    (rightDigits : ∀ c ∈ right, c.isDigit)
    (sameLength : left.length = right.length)
    (lt : left < right) :
    valueOf left < valueOf right := by
  induction left generalizing right with
  | nil =>
      rw [List.length_nil, eq_comm, List.length_eq_zero_iff] at sameLength
      rw [sameLength] at lt
      exact absurd lt (lt_irrefl _)
  | cons c left inductionHypothesis =>
      cases right with
      | nil => cases sameLength
      | cons d right =>
          have rest := Nat.succ.inj sameLength
          rcases List.cons_lt_cons_iff.1 lt with below | ⟨rfl, below⟩
          · exact valueOf_cons_lt leftDigits rightDigits rest below
          · obtain ⟨first, found, leftValue⟩ := valueOf_cons (.ofAscii leftDigits)
            obtain ⟨second, rightFound, rightValue⟩ := valueOf_cons (.ofAscii rightDigits)
            obtain rfl : first = second := Option.some.inj (found.symm.trans rightFound)
            rw [List.forall_mem_cons] at leftDigits rightDigits
            have later := inductionHypothesis leftDigits.2 rightDigits.2 rest below
            rw [leftValue, rightValue, rest]
            exact Nat.add_lt_add_left later _

theorem lt_of_valueOf_lt
    {left right : Text}
    (leftDigits : ∀ c ∈ left, c.isDigit)
    (rightDigits : ∀ c ∈ right, c.isDigit)
    (sameLength : left.length = right.length)
    (lt : valueOf left < valueOf right) :
    left < right := by
  rcases lt_trichotomy left right with below | rfl | above
  · exact below
  · exact absurd lt (lt_irrefl _)
  · have reversed := valueOf_lt_of_lt rightDigits leftDigits sameLength.symm above
    exact absurd lt (lt_asymm reversed)

/-- Equally many ASCII digits that denote the same number are the same. -/
theorem eq_of_valueOf_eq
    {left right : Text}
    (leftDigits : ∀ c ∈ left, c.isDigit)
    (rightDigits : ∀ c ∈ right, c.isDigit)
    (sameLength : left.length = right.length)
    (same : valueOf left = valueOf right) :
    left = right := by
  rcases lt_trichotomy left right with below | equal | above
  · exact absurd same (valueOf_lt_of_lt leftDigits rightDigits sameLength below).ne
  · exact equal
  · exact absurd same (valueOf_lt_of_lt rightDigits leftDigits sameLength.symm above).ne'

/-! ## Numerals of natural numbers -/

theorem isDigit_of_mem_ofNat
    {n : Nat}
    {c : Char}
    (member : c ∈ ofNat n) :
    c.isDigit :=
  Nat.isDigit_of_mem_toDigits (by decide) (by decide) member

theorem isDigit_of_mem_padLeft
    {width : Nat}
    {text : Text}
    (digits : ∀ c ∈ text, c.isDigit) :
    ∀ c ∈ padLeft width '0' text, c.isDigit := by
  intro c member
  rcases List.mem_append.1 member with zeros | inside
  · rw [List.eq_of_mem_replicate zeros]
    rfl
  · exact digits c inside

/-- The numeral of a number denotes it. -/
theorem valueOf_ofNat (n : Nat) :
    valueOf (ofNat n) = n := by
  induction n using Nat.strongRecOn with
  | ind n inductionHypothesis =>
      have last (digit : Nat) (small : digit < 10) : valueOf [Nat.digitChar digit] = digit := by
        simp [valueOf, Text.digitValues, Text.digitValue?_digitChar ⟨digit, small⟩, value]
      rw [ofNat, Nat.toDigits_eq_if (by decide)]
      split
      · exact last n ‹_›
      · have one : (Text.digitValues [Nat.digitChar (n % 10)]).length = 1 := by
          rw [Text.AllDigits.length_digitValues]
          · rfl
          · intro c member
            rw [List.mem_singleton.1 member, Text.isDigit,
              Text.digitValue?_digitChar ⟨n % 10, Nat.mod_lt _ (by decide)⟩]
            rfl
        have front : valueOf (Nat.toDigits 10 (n / 10)) = n / 10 :=
          inductionHypothesis (n / 10) (by omega)
        rw [valueOf_append, one, front, last (n % 10) (Nat.mod_lt _ (by decide))]
        omega

theorem allDigits_replicate_zero (count : Nat) :
    Text.AllDigits (List.replicate count '0') :=
  .ofAscii fun c member => by rw [List.eq_of_mem_replicate member]; rfl

theorem valueOf_replicate_zero (count : Nat) :
    valueOf (List.replicate count '0') = 0 := by
  induction count with
  | zero => rfl
  | succ count inductionHypothesis =>
      have digits := allDigits_replicate_zero (count + 1)
      obtain ⟨digit, found, parted⟩ := valueOf_cons (List.replicate_succ ▸ digits)
      obtain rfl : 0 = digit := Option.some.inj (found.symm ▸ rfl)
      rw [List.replicate_succ, parted, inductionHypothesis, Nat.zero_mul]

/-- Zeros on the left do not count. -/
theorem valueOf_padLeft
    (width : Nat)
    (text : Text) :
    valueOf (padLeft width '0' text) = valueOf text := by
  rw [padLeft, valueOf_append, valueOf_replicate_zero, Nat.zero_mul, Nat.zero_add]

/-- A text that is wide enough is not padded. -/
theorem padLeft_of_length_le
    {width : Nat}
    {text : Text}
    (long : width ≤ text.length)
    (fill : Char) :
    padLeft width fill text = text := by
  rw [padLeft, Nat.sub_eq_zero_of_le long, List.replicate_zero, List.nil_append]

theorem length_ofNat_le
    {n width : Nat}
    (positive : 0 < width)
    (bound : n < 10 ^ width) :
    (ofNat n).length ≤ width :=
  (Nat.length_toDigits_le_iff (by decide) positive).2 bound

theorem length_padLeft_ofNat
    {n width : Nat}
    (positive : 0 < width)
    (bound : n < 10 ^ width) :
    (padLeft width '0' (ofNat n)).length = width := by
  rw [length_padLeft, Nat.max_eq_left (length_ofNat_le positive bound)]

end Numeral

/-! ## Reading numerals -/

namespace NumberLiteral

/-- Digits are taken off up to a text that does not start with one. -/
theorem scanDigits_append
    {front rest : Text}
    (digits : Text.AllDigits front)
    (ends : scanDigits rest = ([], rest)) :
    scanDigits (front ++ rest) = (Text.digitValues front, rest) := by
  induction front with
  | nil => exact ends
  | cons c front inductionHypothesis =>
      obtain ⟨digit, found, -, later, values⟩ := digits.digitValues_cons
      rw [List.cons_append, scanDigits, found]
      simp only [inductionHypothesis later, values]

theorem scanDigits_of_allDigits
    {text : Text}
    (digits : Text.AllDigits text) :
    scanDigits text = (Text.digitValues text, []) := by
  have whole : scanDigits (text ++ []) = _ := scanDigits_append digits rfl
  rwa [List.append_nil] at whole

theorem scanSign_cons
    {c : Char}
    (digit : Text.isDigit c)
    (rest : Text) :
    scanSign (c :: rest) = (false, c :: rest) := by
  unfold scanSign
  split
  · rename_i same
    rw [(List.cons.inj same).1] at digit
    exact absurd digit (by decide)
  · rename_i same
    rw [(List.cons.inj same).1] at digit
    exact absurd digit (by decide)
  · rfl

/-- A text of digits has no sign to take off. -/
theorem scanSign_of_allDigits
    {text : Text}
    (digits : Text.AllDigits text) :
    scanSign text = (false, text) := by
  cases text with
  | nil => rfl
  | cons c rest => exact scanSign_cons (digits c List.mem_cons_self) rest

/-- Digits with a hyphen behind them are no number. -/
theorem parseNumber?_append_hyphen
    {front : Text}
    (nonempty : front ≠ [])
    (digits : Text.AllDigits front)
    (rest : Text) :
    parseNumber? (front ++ '-' :: rest) = none := by
  obtain ⟨c, others, rfl⟩ := List.exists_cons_of_ne_nil nonempty
  obtain ⟨digit, -, -, -, values⟩ := digits.digitValues_cons
  have ends : scanDigits ('-' :: rest) = ([], '-' :: rest) := rfl
  have scanned := scanDigits_append digits ends
  rw [List.cons_append] at scanned ⊢
  rw [parseNumber?, scan?, scanSign_cons (digits c List.mem_cons_self)]
  dsimp only
  rw [scanned, values]
  simp [scanFraction, scanExponent]

end NumberLiteral

namespace Numeral

/-- A way of writing an integer in decimal: digits with or without a sign before them. -/
inductive Writes : Int → Text → Prop where
  | unsigned
      {digits : Text}
      (nonempty : digits ≠ [])
      (allDigits : Text.AllDigits digits) :
      Writes (valueOf digits) digits
  | positive
      {digits : Text}
      (nonempty : digits ≠ [])
      (allDigits : Text.AllDigits digits) :
      Writes (valueOf digits) ('+' :: digits)
  | negative
      {digits : Text}
      (nonempty : digits ≠ [])
      (allDigits : Text.AllDigits digits) :
      Writes (-(valueOf digits : Int)) ('-' :: digits)

theorem allDigits_ofNat (n : Nat) :
    Text.AllDigits (ofNat n) :=
  .ofAscii fun _ => isDigit_of_mem_ofNat

theorem ofNat_ne_nil (n : Nat) :
    ofNat n ≠ [] :=
  Nat.toDigits_ne_nil

/-- The numeral of an integer is a way of writing it. -/
theorem writes_ofInt (n : Int) :
    Writes n (ofInt n) := by
  cases n with
  | ofNat n =>
      have written := Writes.unsigned (ofNat_ne_nil n) (allDigits_ofNat n)
      rwa [valueOf_ofNat] at written
  | negSucc n =>
      have written := Writes.negative (ofNat_ne_nil (n + 1)) (allDigits_ofNat (n + 1))
      rwa [valueOf_ofNat] at written

/-- The sign and the digits that are taken off a written integer. -/
theorem Writes.exists_scan
    {n : Int}
    {text : Text}
    (writes : Writes n text) :
    ∃ negative digits first others, scanSign text = (negative, digits) ∧
      scanDigits digits = (first :: others, []) ∧ others.length < text.length ∧
      n = if negative then -(value (first :: others) : Int) else value (first :: others) := by
  have scans {digits : Text} (nonempty : digits ≠ []) (allDigits : Text.AllDigits digits) :
      ∃ first others, Text.digitValues digits = first :: others ∧
        scanDigits digits = (first :: others, []) ∧ others.length + 1 = digits.length := by
    have size := allDigits.length_digitValues
    have positive := List.length_pos_iff.2 nonempty
    rw [scanDigits_of_allDigits allDigits]
    cases values : Text.digitValues digits with
    | nil =>
        rw [values, List.length_nil] at size
        omega
    | cons first others =>
        rw [values, List.length_cons] at size
        exact ⟨first, others, rfl, rfl, size⟩
  cases writes with
  | unsigned nonempty allDigits =>
      obtain ⟨first, others, values, scanned, size⟩ := scans nonempty allDigits
      rw [valueOf, values]
      exact ⟨false, _, first, others, scanSign_of_allDigits allDigits, scanned, by omega, rfl⟩
  | positive nonempty allDigits =>
      obtain ⟨first, others, values, scanned, size⟩ := scans nonempty allDigits
      rw [valueOf, values]
      exact ⟨false, _, first, others, rfl, scanned, by rw [List.length_cons]; omega, rfl⟩
  | negative nonempty allDigits =>
      obtain ⟨first, others, values, scanned, size⟩ := scans nonempty allDigits
      rw [valueOf, values]
      exact ⟨true, _, first, others, rfl, scanned, by rw [List.length_cons]; omega, rfl⟩

/-- A written integer is a number as a whole, without a fraction and without an exponent. -/
theorem Writes.parseNumber?_eq
    {n : Int}
    {text : Text}
    (writes : Writes n text) :
    ∃ negative, n = (if negative then -(n.natAbs : Int) else n.natAbs) ∧
      parseNumber? text = some (Double.ofDecimal negative n.natAbs 0) := by
  obtain ⟨negative, digits, first, others, signed, scanned, -, rfl⟩ := writes.exists_scan
  have size :
      (if negative then -(value (first :: others) : Int) else value (first :: others)).natAbs =
        value (first :: others) := by
    cases negative <;> simp
  refine ⟨negative, by rw [size], ?_⟩
  rw [size, parseNumber?, scan?, signed]
  dsimp only
  rw [scanned]
  simp [scanFraction, scanExponent, NumberLiteral.value, NumberLiteral.power, value]

theorem Writes.isSome_parseNumber?
    {n : Int}
    {text : Text}
    (writes : Writes n text) :
    (parseNumber? text).isSome := by
  obtain ⟨negative, -, parsed⟩ := writes.parseNumber?_eq
  rw [parsed]
  rfl

/-- A written integer is read back unless it has too many digits. -/
theorem Writes.leadingInteger_eq
    {n : Int}
    {text : Text}
    (writes : Writes n text)
    (default : Int) :
    leadingInteger text default = .ok n ∨
      leadingInteger text default = .error .tooManyDigits ∧ digitLimit < text.length := by
  obtain ⟨negative, digits, first, others, signed, scanned, size, rfl⟩ := writes.exists_scan
  rw [leadingInteger, signed]
  dsimp only
  rw [scanned]
  change read negative (first :: others) = _ ∨ read negative (first :: others) = _ ∧ _
  rw [read]
  split
  · rename_i long
    rw [gt_iff_lt, List.length_cons] at long
    exact Or.inr ⟨rfl, by omega⟩
  · cases negative <;> exact Or.inl rfl

/-- An integer is written unless it has too many digits. -/
theorem write_eq (n : Int) :
    write n = if n.natAbs < 10 ^ digitLimit then .ok (ofInt n) else .error .tooManyDigits := by
  have digits : (ofNat n.natAbs).length ≤ digitLimit ↔ n.natAbs < 10 ^ digitLimit :=
    Nat.length_toDigits_le_iff (by decide) (by decide)
  by_cases short : n.natAbs < 10 ^ digitLimit
  · rw [write, if_neg (not_lt.2 (digits.2 short)), if_pos short]
  · rw [write, if_pos (lt_of_not_ge (mt digits.1 short)), if_neg short]

theorem read_eq
    (negative : Bool)
    (digits : List Nat) :
    read negative digits =
      if digitLimit < digits.length then
        .error .tooManyDigits
      else
        .ok (if negative then -(value digits : Int) else value digits) := by
  unfold read
  cases negative <;> rfl

/-- Behind its sign a text is read up to where its digits end. -/
theorem leadingInteger_of_scanSign
    {text front rest : Text}
    {negative : Bool}
    (signed : scanSign text = (negative, front ++ rest))
    (nonempty : front ≠ [])
    (digits : Text.AllDigits front)
    (ends : scanDigits rest = ([], rest))
    (default : Int) :
    leadingInteger text default =
      if digitLimit < front.length then
        .error .tooManyDigits
      else
        .ok (if negative then -(valueOf front : Int) else valueOf front) := by
  obtain ⟨c, others, rfl⟩ := List.exists_cons_of_ne_nil nonempty
  obtain ⟨digit, -, -, -, values⟩ := digits.digitValues_cons
  have scanned := scanDigits_append digits ends
  rw [← digits.length_digitValues, valueOf, ← read_eq, leadingInteger, signed]
  dsimp only
  rw [scanned, values]

/-- The numeral of an integer is read back unless the integer has too many digits. -/
theorem leadingInteger_ofInt
    {n : Int}
    (short : n.natAbs < 10 ^ digitLimit)
    (default : Int) :
    leadingInteger (ofInt n) default = .ok n := by
  have signed : scanSign (ofInt n) = (decide (n < 0), ofNat n.natAbs ++ []) := by
    rw [List.append_nil]
    cases n with
    | ofNat n => exact scanSign_of_allDigits (allDigits_ofNat n)
    | negSucc n => simp [ofInt, scanSign, Int.negSucc_lt_zero]
  have size := length_ofNat_le (by decide) short
  rw [leadingInteger_of_scanSign signed (ofNat_ne_nil _) (allDigits_ofNat _) rfl,
    if_neg (not_lt.2 size), valueOf_ofNat]
  simp only [decide_eq_true_iff]
  congr 1
  split_ifs <;> omega

end Numeral
end LabelPress
