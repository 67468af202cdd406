import LabelPress.Number.Double
import LabelPress.Number.Numeral

/-!
# The shortest numeral of a double

A double is written with the fewest significant digits that read back to it, and of
those the nearest to it.  The search tries grids of 1, 2, … 17 digits; on each grid
only the two neighbours of the exact value can be hits.
-/

namespace LabelPress
namespace Double

/-- A decimal number `digits * 10 ^ exponent`. -/
structure Decimal where
  /-- The significant digits as one number. -/
  digits : Nat
  /-- The power of ten that scales them. -/
  exponent : Int

/--
The interval of the numbers that round to a double, as quarters of its last place:
the bounds lie `below` and `above` the value and belong to it if `closed` holds.
-/
structure RoundingInterval where
  /-- Four times the significand. -/
  centre : Nat
  /-- The distance to the lower bound. -/
  below : Nat
  /-- The distance to the upper bound. -/
  above : Nat
  /-- The bounds themselves round to the double. -/
  closed : Bool
  /-- The power of two that a quarter of the last place is. -/
  exponent : Int

/-- Below a power of two the doubles are twice as dense as above it. -/
def roundingInterval
    (significand : Nat)
    (exponent : Int) : RoundingInterval where
  centre := 4 * significand
  below := if significand = Nat.pow 2 52 ∧ -1074 < exponent then 1 else 2
  above := 2
  closed := significand % 2 == 0
  exponent := exponent - 2

/-- The greatest `order` with `10 ^ order ≤ significand * 2 ^ exponent`. -/
def decimalOrder
    (significand : Nat)
    (exponent : Int) : Int :=
  let reaches (order : Int) : Bool :=
    Nat.pow 10 order.toNat * Nat.pow 2 (-exponent).toNat ≤
      significand * Nat.pow 2 exponent.toNat * Nat.pow 10 (-order).toNat
  let estimate := (significand.log2 + exponent) * 30103 / 100000
  if reaches (estimate + 1) then
    estimate + 1
  else if reaches estimate then
    estimate
  else
    estimate - 1

/--
The best decimal on the grid of multiples of `10 ^ exponent` that rounds to a double,
if any does.  Of two hits the nearer wins, and of two equally near ones the even one.
-/
def RoundingInterval.onGrid?
    (interval : RoundingInterval)
    (exponent : Int) : Option Decimal :=
  let quarter := Nat.pow 2 interval.exponent.toNat * Nat.pow 10 (-exponent).toNat
  let cell := Nat.pow 10 exponent.toNat * Nat.pow 2 (-interval.exponent).toNat
  let value := interval.centre * quarter
  let low := (interval.centre - interval.below) * quarter
  let high := (interval.centre + interval.above) * quarter
  let lower := value / cell
  let upper := lower + 1
  let lowerHits := low < lower * cell || (interval.closed && low == lower * cell)
  let upperHits := upper * cell < high || (interval.closed && upper * cell == high)
  let toLower := value - lower * cell
  let toUpper := upper * cell - value
  if lowerHits && upperHits then
    if toLower < toUpper || (toLower == toUpper && lower % 2 == 0) then
      some ⟨lower, exponent⟩
    else
      some ⟨upper, exponent⟩
  else if lowerHits then
    some ⟨lower, exponent⟩
  else if upperHits then
    some ⟨upper, exponent⟩
  else
    none

/-- The shortest decimal of a positive finite double. -/
def shortest
    (significand : Nat)
    (exponent : Int) : Decimal :=
  let interval := roundingInterval significand exponent
  let order := decimalOrder significand exponent
  let hit := (List.range 17).findSome? fun (place : Nat) => interval.onGrid? (order - place)
  hit.getD ⟨0, 0⟩

/--
Write the digits of a decimal: with a point while the first digit stands for a power
of ten from `-4` to `15`, and with an exponent otherwise.
-/
def Decimal.write (decimal : Decimal) : Text :=
  let all := Numeral.ofNat decimal.digits
  let digits := (all.reverse.dropWhile (· == '0')).reverse
  let order : Int := decimal.exponent + all.length - 1
  if order < -4 || 16 ≤ order then
    let mantissa :=
      match digits with
      | first :: second :: others => first :: '.' :: second :: others
      | short => short
    let sign := if order < 0 then '-' else '+'
    mantissa ++ 'e' :: sign :: Numeral.twoDigits order.natAbs
  else if order < 0 then
    '0' :: '.' :: (List.replicate (-order - 1).toNat '0' ++ digits)
  else
    let whole := order.toNat + 1
    let filled := digits ++ List.replicate (whole + 1 - digits.length) '0'
    filled.take whole ++ '.' :: filled.drop whole

/-- The text of a double. -/
def toText : Double → Text
  | .nan => ['n', 'a', 'n']
  | .infinite negative => (if negative then ['-'] else []) ++ ['i', 'n', 'f']
  | .finite negative significand exponent _ =>
      let magnitude :=
        if significand = 0 then
          ['0', '.', '0']
        else
          (shortest significand exponent).write
      (if negative then ['-'] else []) ++ magnitude

end Double
end LabelPress
