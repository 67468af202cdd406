import LabelPress.Text.Blank

/-!
# Code units

Escapes write a character as one number or, beyond the first 65536 characters, as two
halves.  A half alone is no character and is replaced.
-/

namespace LabelPress
namespace Text

/-- The first half of a character in two halves. -/
def isHighHalf (unit : Nat) : Bool :=
  0xd800 ≤ unit && unit < 0xdc00

/-- The second half of a character in two halves. -/
def isLowHalf (unit : Nat) : Bool :=
  0xdc00 ≤ unit && unit < 0xe000

/-- The character with a number; what is none is replaced. -/
def ofUnit (unit : Nat) : Char :=
  if unit.isValidChar then Char.ofNat unit else '\ufffd'

/-- The characters of some code units. -/
def ofUnits : List Nat → Text
  | [] => []
  | [unit] => [ofUnit unit]
  | high :: low :: others =>
      if isHighHalf high && isLowHalf low then
        Char.ofNat (0x10000 + (high - 0xd800) * 0x400 + (low - 0xdc00)) :: ofUnits others
      else
        ofUnit high :: ofUnits (low :: others)

end Text
end LabelPress
