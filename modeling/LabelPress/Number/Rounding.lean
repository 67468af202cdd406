/-!
# Rounding a quotient

One function rounds the quotient of two natural numbers to a nearest integer; the
tie rule says what happens half way.
-/

namespace LabelPress

/-- What a quotient half way between two integers rounds to. -/
inductive Tie where
  /-- The even neighbour. -/
  | toEven
  /-- The larger neighbour. -/
  | awayFromZero
deriving DecidableEq

/-- The integer nearest to `numerator / denominator`. -/
def roundQuotient
    (tie : Tie)
    (numerator denominator : Nat) : Nat :=
  let whole := numerator / denominator
  let twice := 2 * (numerator % denominator)
  if twice < denominator then
    whole
  else if denominator < twice then
    whole + 1
  else
    match tie with
    | .toEven => whole + whole % 2
    | .awayFromZero => whole + 1

end LabelPress
