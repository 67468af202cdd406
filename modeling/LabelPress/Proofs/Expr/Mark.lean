import LabelPress.Proofs.Expr.Scan
import LabelPress.Proofs.Number.Literal
import LabelPress.Text.Case

/-!
# Marks, names and numbers

The marks of expressions are quotes, parentheses, commas and bars.  Blanks, the
characters of names and the characters of numbers are none of them, and no character of
a name or a number is blank.  Main statements: a text that is a number consists of number
characters, and no name is a number.
-/

namespace LabelPress
namespace Text

/-- A character of one table of ranges lies in no range that is disjoint from all. -/
theorem inRanges_eq_false_of_disjoint
    {left right : List (Nat × Nat)}
    (disjoint : ∀ range ∈ left, ∀ other ∈ right, range.2 < other.1 ∨ other.2 < range.1)
    {c : Char}
    (inside : inRanges left c) :
    inRanges right c = false := by
  simp only [inRanges, List.any_eq_true, Bool.and_eq_true, decide_eq_true_eq] at inside
  obtain ⟨range, member, bounds⟩ := inside
  simp only [inRanges, List.any_eq_false, Bool.and_eq_true, decide_eq_true_eq]
  intro other otherMember otherBounds
  have apart := disjoint range member other otherMember
  omega

/-- The digits are the characters of the blocks of digits. -/
theorem isDigit_eq_inRanges (c : Char) :
    isDigit c = inRanges digitRanges c := by
  rw [isDigit, digitValue?, Option.isSome_map, inRanges, Bool.eq_iff_iff,
    List.find?_isSome, List.any_eq_true]

end Text

/-- The code points of quotes, parentheses, the comma and the bar. -/
def markRanges : List (Nat × Nat) :=
  [(0x22, 0x22), (0x27, 0x29), (0x2c, 0x2c), (0x7c, 0x7c)]

/-- A character that divides expressions: a quote, a parenthesis, a comma or a bar. -/
def isMark (c : Char) : Bool :=
  Text.inRanges markRanges c

/-- The code points of the ASCII letters and of the underscore. -/
def nameRanges : List (Nat × Nat) :=
  [(0x41, 0x5a), (0x5f, 0x5f), (0x61, 0x7a)]

/-- A character of names: an ASCII letter or an underscore. -/
def isNameChar (c : Char) : Bool :=
  Text.inRanges nameRanges c

/-- The code points of the ASCII capital letters and of the underscore. -/
def functionRanges : List (Nat × Nat) :=
  [(0x41, 0x5a), (0x5f, 0x5f)]

/-- A character of function names: an ASCII capital letter or an underscore. -/
def isFunctionChar (c : Char) : Bool :=
  Text.inRanges functionRanges c

/-- Blanks are no marks. -/
theorem isMark_eq_false_of_isBlank
    {c : Char}
    (blank : Text.isBlank c) :
    isMark c = false :=
  Text.inRanges_eq_false_of_disjoint (by decide) blank

/-- The characters of names are no marks. -/
theorem isMark_eq_false_of_isNameChar
    {c : Char}
    (named : isNameChar c) :
    isMark c = false :=
  Text.inRanges_eq_false_of_disjoint (by decide) named

/-- The characters of names are not blank. -/
theorem isBlank_eq_false_of_isNameChar
    {c : Char}
    (named : isNameChar c) :
    Text.isBlank c = false :=
  Text.inRanges_eq_false_of_disjoint (by decide) named

/-- The characters of names are no digits. -/
theorem digitValue?_of_isNameChar
    {c : Char}
    (named : isNameChar c) :
    Text.digitValue? c = none := by
  have outside : Text.inRanges Text.digitRanges c = false :=
    Text.inRanges_eq_false_of_disjoint (by decide) named
  rw [← Text.isDigit_eq_inRanges] at outside
  simpa [Text.isDigit] using outside

/-- The characters of function names are characters of names. -/
theorem isNameChar_of_isFunctionChar
    {c : Char}
    (capital : isFunctionChar c) :
    isNameChar c := by
  simp only [isFunctionChar, functionRanges, Text.inRanges, List.any_eq_true] at capital
  obtain ⟨range, member, bounds⟩ := capital
  simp only [isNameChar, nameRanges, Text.inRanges, List.any_eq_true]
  exact ⟨range, by simp only [List.mem_cons] at member ⊢; tauto, bounds⟩

/-- The characters of function names are their own upper case. -/
theorem upperChar_of_isFunctionChar
    {c : Char}
    (capital : isFunctionChar c) :
    Text.upperChar c = [c] := by
  simp only [isFunctionChar, functionRanges, Text.inRanges, List.any_cons, List.any_nil,
    Bool.or_false, Bool.or_eq_true, Bool.and_eq_true, decide_eq_true_eq] at capital
  have ascii : c.toNat < 128 := by omega
  have notLower : ¬(97 ≤ c.toNat ∧ c.toNat ≤ 122) := by omega
  have same : c.toUpper = c := dif_neg notLower
  simp only [Text.upperChar, ascii, if_true, same]

/-- The characters of numbers lie outside a table that holds no digit and no sign. -/
theorem inRanges_eq_false_of_isNumberChar
    {ranges : List (Nat × Nat)}
    (digits :
      ∀ range ∈ Text.digitRanges, ∀ other ∈ ranges, range.2 < other.1 ∨ other.2 < range.1)
    (signs : ∀ c ∈ ['+', '-', '.', 'e', 'E'], Text.inRanges ranges c = false)
    {c : Char}
    (number : isNumberChar c) :
    Text.inRanges ranges c = false := by
  simp only [isNumberChar, Bool.or_eq_true, List.contains_eq_mem, decide_eq_true_eq]
    at number
  rcases number with digit | sign
  · rw [Text.isDigit_eq_inRanges] at digit
    exact Text.inRanges_eq_false_of_disjoint digits digit
  · exact signs c sign

/-- The characters of numbers are no marks. -/
theorem isMark_eq_false_of_isNumberChar
    {c : Char}
    (number : isNumberChar c) :
    isMark c = false :=
  inRanges_eq_false_of_isNumberChar (by decide) (by decide) number

/-- The characters of numbers are not blank. -/
theorem isBlank_eq_false_of_isNumberChar
    {c : Char}
    (number : isNumberChar c) :
    Text.isBlank c = false :=
  inRanges_eq_false_of_isNumberChar (by decide) (by decide) number

/-- What is no mark is plain. -/
theorem isPlain_of_isMark_eq_false
    {c : Char}
    (unmarked : isMark c = false) :
    isPlain c := by
  apply isPlain_of_not_mem
  intro member
  revert unmarked
  revert c
  decide

theorem ne_of_isMark_eq_false
    {c mark : Char}
    (unmarked : isMark c = false)
    (marks : isMark mark) :
    c ≠ mark := by
  rintro rfl
  simp [unmarked] at marks

namespace Expr

/-- No character of a text divides expressions. -/
def MarkFree (text : Text) : Prop :=
  ∀ c ∈ text, isMark c = false

namespace MarkFree

variable {text : Text}

theorem append
    {left right : Text}
    (first : MarkFree left)
    (second : MarkFree right) :
    MarkFree (left ++ right) := by
  intro c member
  rcases List.mem_append.1 member with inFirst | inSecond
  · exact first c inFirst
  · exact second c inSecond

theorem ofBlank
    (blank : Text.AllBlank text) :
    MarkFree text := by
  intro c member
  exact isMark_eq_false_of_isBlank (blank c member)

theorem ofNumber
    (number : (parseNumber? text).isSome) :
    MarkFree text := by
  intro c member
  exact isMark_eq_false_of_isNumberChar (isNumberChar_of_parseNumber? number c member)

theorem isPlain
    (free : MarkFree text) :
    ∀ c ∈ text, isPlain c := by
  intro c member
  exact isPlain_of_isMark_eq_false (free c member)

theorem balanced
    (free : MarkFree text) :
    Balanced text :=
  .ofPlain free.isPlain

theorem not_mem
    {mark : Char}
    (free : MarkFree text)
    (marks : isMark mark) :
    mark ∉ text := by
  intro member
  exact ne_of_isMark_eq_false (free mark member) marks rfl

end MarkFree

/-- A character of words: no blank, no mark and no closing brace. -/
def isWordChar (c : Char) : Bool :=
  !Text.isBlank c && !isMark c && c != '\x7d'

/--
A word can name a column on its own.  The letters of every script make words, and so do
digits and most signs.
-/
def IsWord (word : Text) : Prop :=
  word ≠ [] ∧ ∀ c ∈ word, isWordChar c

instance (word : Text) : Decidable (IsWord word) :=
  inferInstanceAs (Decidable (word ≠ [] ∧ ∀ c ∈ word, isWordChar c))

namespace IsWord

variable {word : Text}

/-- A number is a word. -/
theorem ofNumber
    (number : (parseNumber? word).isSome) :
    IsWord word := by
  constructor
  · rintro rfl
    cases number
  · intro c member
    have digit := isNumberChar_of_parseNumber? number c member
    have unbraced : c ≠ '\x7d' := by
      rintro rfl
      exact absurd digit (by decide)
    simp [isWordChar, isBlank_eq_false_of_isNumberChar digit,
      isMark_eq_false_of_isNumberChar digit, unbraced]

theorem isBlank_eq_false
    (isWord : IsWord word) :
    ∀ c ∈ word, Text.isBlank c = false := by
  intro c member
  have each := isWord.2 c member
  simp only [isWordChar, Bool.and_eq_true, Bool.not_eq_true'] at each
  exact each.1.1

theorem markFree
    (isWord : IsWord word) :
    MarkFree word := by
  intro c member
  have each := isWord.2 c member
  simp only [isWordChar, Bool.and_eq_true, Bool.not_eq_true'] at each
  exact each.1.2

theorem not_mem_closeBrace
    (isWord : IsWord word) :
    '\x7d' ∉ word := by
  intro member
  exact absurd (isWord.2 _ member) (by decide)

theorem trim_eq
    (isWord : IsWord word) :
    Text.trim word = word :=
  Text.trim_eq_self isWord.isBlank_eq_false

/-- A word begins with a character that is neither blank nor a mark. -/
theorem exists_cons
    (isWord : IsWord word) :
    ∃ first others, word = first :: others ∧ Text.isBlank first = false ∧ isMark first = false := by
  obtain ⟨first, others, rfl⟩ := List.exists_cons_of_ne_nil isWord.1
  exact ⟨first, others, rfl, isWord.isBlank_eq_false first List.mem_cons_self,
    isWord.markFree first List.mem_cons_self⟩

/-- A word ends with a character that is not blank. -/
theorem exists_concat
    (isWord : IsWord word) :
    ∃ front last, word = front ++ [last] ∧ Text.isBlank last = false := by
  have parted := (List.dropLast_append_getLast isWord.1).symm
  exact ⟨_, _, parted, isWord.isBlank_eq_false _ (List.getLast_mem isWord.1)⟩

end IsWord
end Expr
end LabelPress
