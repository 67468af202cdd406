/-!
# Texts and blank characters

A text is a list of characters, so a length counts code points and cutting a text
is cutting a list.  This module fixes which characters are blank and how blanks are
removed from the ends of a text.
-/

namespace LabelPress

/-- A text is a list of characters. -/
abbrev Text := List Char

namespace Text

/-- A character lies in one of the closed ranges of code points of a table. -/
def inRanges
    (ranges : List (Nat × Nat))
    (c : Char) : Bool :=
  ranges.any fun range => range.1 ≤ c.toNat && c.toNat ≤ range.2

/-- The code points that separate words: controls, separators and wide spaces. -/
def blankRanges : List (Nat × Nat) :=
  [(0x09, 0x0d), (0x1c, 0x20), (0x85, 0x85), (0xa0, 0xa0), (0x1680, 0x1680),
    (0x2000, 0x200a), (0x2028, 0x2029), (0x202f, 0x202f), (0x205f, 0x205f),
    (0x3000, 0x3000)]

/-- A blank character is one that trimming removes. -/
def isBlank (c : Char) : Bool :=
  inRanges blankRanges c

/-- Remove the blanks at the start. -/
def trimLeft (text : Text) : Text :=
  text.dropWhile isBlank

/-- Remove the blanks at the end. -/
def trimRight (text : Text) : Text :=
  (text.reverse.dropWhile isBlank).reverse

/-- Remove the blanks at both ends. -/
def trim (text : Text) : Text :=
  trimRight (trimLeft text)

/-- Trimming the end never lengthens a text. -/
theorem length_trimRight_le (text : Text) :
    (trimRight text).length ≤ text.length := by
  simpa [trimRight] using (List.dropWhile_suffix isBlank (l := text.reverse)).length_le

/-- Trimming the start never lengthens a text. -/
theorem length_trimLeft_le (text : Text) :
    (trimLeft text).length ≤ text.length :=
  (List.dropWhile_suffix isBlank).length_le

/-- Trimming never lengthens a text. -/
theorem length_trim_le (text : Text) :
    (trim text).length ≤ text.length :=
  Nat.le_trans (length_trimRight_le _) (length_trimLeft_le text)

end Text
end LabelPress
