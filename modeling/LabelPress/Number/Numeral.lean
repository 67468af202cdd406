import LabelPress.Number.Fault
import LabelPress.Text.Blank

/-!
# Decimal numerals

Integers as decimal numerals.  A numeral has a bounded number of digits, both when it
is read and when it is written.
-/

namespace LabelPress
namespace Numeral

/-- The number that a list of digits denotes, most significant digit first. -/
def value (digits : List Nat) : Nat :=
  digits.foldl (fun total digit => total * 10 + digit) 0

/-- The numeral of a natural number. -/
def ofNat (n : Nat) : Text :=
  Nat.toDigits 10 n

/-- The numeral of an integer. -/
def ofInt : Int → Text
  | .ofNat n => ofNat n
  | .negSucc n => '-' :: ofNat (n + 1)

/-- The largest number of digits of a numeral. -/
def digitLimit : Nat := 4300

/-- The integer with a sign and a bounded list of digits. -/
def read
    (negative : Bool)
    (digits : List Nat) : Except NumericFault Int :=
  if digits.length > digitLimit then
    .error .tooManyDigits
  else if negative then
    .ok (-(value digits : Int))
  else
    .ok (value digits : Int)

/-- The numeral of an integer, unless it has too many digits. -/
def write (n : Int) : Except NumericFault Text :=
  if (ofNat n.natAbs).length > digitLimit then
    .error .tooManyDigits
  else
    .ok (ofInt n)

/-- Fill a text with a character on the left up to a width. -/
def padLeft
    (width : Nat)
    (fill : Char)
    (text : Text) : Text :=
  List.replicate (width - text.length) fill ++ text

/-- A natural number in at least two digits. -/
def twoDigits (n : Nat) : Text :=
  padLeft 2 '0' (ofNat n)

/-- A natural number in at least four digits. -/
def fourDigits (n : Nat) : Text :=
  padLeft 4 '0' (ofNat n)

/-- Padding reaches its width. -/
theorem length_padLeft
    (width : Nat)
    (fill : Char)
    (text : Text) :
    (padLeft width fill text).length = max width text.length := by
  simp [padLeft]
  omega

end Numeral
end LabelPress
