import LabelPress.Number.Double
import LabelPress.Number.Numeral

/-!
# Fixed decimal places

A double with a chosen number of decimal places.  The exact value is rounded, a half
going to the even neighbour, and the sign stays even where only zeros are left.
-/

namespace LabelPress
namespace Double

/-- The largest number of decimal places. -/
def placeLimit : Nat := 2147483647

/-- No finite double has a digit other than zero beyond this place. -/
def lastPlace : Nat := 1074

/-- Put a point before the last `places` digits, with a digit in front of it. -/
def insertPoint
    (places : Nat)
    (scaled : Nat) : Text :=
  let digits := Numeral.padLeft (places + 1) '0' (Numeral.ofNat scaled)
  let whole := digits.take (digits.length - places)
  if places = 0 then
    whole
  else
    whole ++ '.' :: digits.drop (digits.length - places)

/-- The text of a double with a number of decimal places. -/
def fixed
    (places : Nat)
    (double : Double) : Except NumericFault Text :=
  if placeLimit < places then
    .error .tooManyPlaces
  else
    match double with
    | .nan => .ok ['n', 'a', 'n']
    | .infinite negative => .ok ((if negative then ['-'] else []) ++ ['i', 'n', 'f'])
    | .finite negative significand exponent _ =>
        let exact := min places lastPlace
        let parts := ratio significand exponent
        let scaled := roundQuotient .toEven (parts.1 * Nat.pow 10 exact) parts.2
        let magnitude := insertPoint exact scaled ++ List.replicate (places - exact) '0'
        .ok ((if negative then ['-'] else []) ++ magnitude)

end Double
end LabelPress
