import LabelPress.Number.Fault
import LabelPress.Number.Rounding

/-!
# Double precision numbers

A double is a binary fraction with 53 significant bits, an infinity or not a number.
Every operation computes its exact result and rounds it once to the nearest double,
a tie going to the even significand, so only `nearest` knows about rounding.
-/

namespace LabelPress

/--
The one form in which a finite double is kept: at most 53 bits, and all of them used
unless the exponent is already the least one.
-/
def Double.Canonical
    (significand : Nat)
    (exponent : Int) : Prop :=
  significand < Nat.pow 2 53 ∧ -1074 ≤ exponent ∧ exponent ≤ 971 ∧
    (exponent = -1074 ∨ Nat.pow 2 52 ≤ significand)

instance (significand : Nat) (exponent : Int) :
    Decidable (Double.Canonical significand exponent) :=
  inferInstanceAs (Decidable (_ ∧ _ ∧ _ ∧ (_ ∨ _)))

/-- A double precision number; a finite one is `± significand * 2 ^ exponent`. -/
inductive Double where
  /-- The result of an operation without a result. -/
  | nan
  /-- A number beyond every finite double. -/
  | infinite (negative : Bool)
  /-- A finite number, zeros of both signs included. -/
  | finite
      (negative : Bool)
      (significand : Nat)
      (exponent : Int)
      (canonical : Double.Canonical significand exponent)
deriving DecidableEq

namespace Double

/-- The zero of a sign. -/
def zero (negative : Bool) : Double :=
  .finite negative 0 (-1074) (by decide)

/-- The greatest `power` with `2 ^ power ≤ numerator / denominator`. -/
def binaryOrder (numerator denominator : Nat) : Int :=
  let power : Int := numerator.log2 - denominator.log2
  if denominator * Nat.pow 2 power.toNat ≤ numerator * Nat.pow 2 (-power).toNat then
    power
  else
    power - 1

/--
The double nearest to `± numerator / denominator`.  A significand that rounds up to
`2 ^ 53` moves to the next exponent, and a quotient beyond the last one is infinite.
-/
def nearest
    (negative : Bool)
    (numerator denominator : Nat) : Double :=
  if numerator = 0 then
    zero negative
  else
    let exponent := max (-1074) (binaryOrder numerator denominator - 52)
    let rounded :=
      roundQuotient .toEven (numerator * Nat.pow 2 (-exponent).toNat)
        (denominator * Nat.pow 2 exponent.toNat)
    let carried := rounded = Nat.pow 2 53
    let significand := if carried then Nat.pow 2 52 else rounded
    let exponent := if carried then exponent + 1 else exponent
    if canonical : Canonical significand exponent then
      .finite negative significand exponent canonical
    else
      .infinite negative

/-- The double nearest to `± significand * 2 ^ exponent`. -/
def ofBinary
    (negative : Bool)
    (significand : Nat)
    (exponent : Int) : Double :=
  nearest negative (significand * Nat.pow 2 exponent.toNat) (Nat.pow 2 (-exponent).toNat)

/--
The double nearest to `± significand * 10 ^ exponent`.  Numbers of more than 310
digits before the point or 330 zeros after it need no exact arithmetic.
-/
def ofDecimal
    (negative : Bool)
    (significand : Nat)
    (exponent : Int) : Double :=
  if significand = 0 then
    zero negative
  else
    let order : Int := (Nat.toDigits 10 significand).length + exponent
    if 310 < order then
      .infinite negative
    else if order < -330 then
      zero negative
    else
      nearest negative (significand * Nat.pow 10 exponent.toNat)
        (Nat.pow 10 (-exponent).toNat)

/-- The double nearest to an integer; an integer beyond all doubles is infinite. -/
def ofInt (n : Int) : Double :=
  nearest (n < 0) n.natAbs 1

/-- The double of an integer that has one. -/
def ofInt? (n : Int) : Except NumericFault Double :=
  match ofInt n with
  | .infinite _ => .error .overflow
  | double => .ok double

/-- The double is neither infinite nor not a number. -/
def isFinite : Double → Bool
  | .finite .. => true
  | _ => false

/-- The double is a zero. -/
def isZero : Double → Bool
  | .finite _ significand _ _ => significand == 0
  | _ => false

/-- The double carries a minus sign. -/
def isNegative : Double → Bool
  | .nan => false
  | .infinite negative => negative
  | .finite negative _ _ _ => negative

/-- The product of two doubles. -/
def mul : Double → Double → Double
  | .nan, _ => .nan
  | _, .nan => .nan
  | .finite s m e _, .finite t n f _ => ofBinary (s ^^ t) (m * n) (e + f)
  | left, right =>
      if left.isZero || right.isZero then
        .nan
      else
        .infinite (left.isNegative ^^ right.isNegative)

/-- The quotient of two doubles; a zero divisor gives an infinity. -/
def div : Double → Double → Double
  | .nan, _ => .nan
  | _, .nan => .nan
  | .infinite _, .infinite _ => .nan
  | .infinite s, .finite t _ _ _ => .infinite (s ^^ t)
  | .finite s _ _ _, .infinite t => zero (s ^^ t)
  | .finite s m e _, .finite t n f _ =>
      if n = 0 then
        if m = 0 then .nan else .infinite (s ^^ t)
      else
        nearest (s ^^ t) (m * Nat.pow 2 (e - f).toNat) (n * Nat.pow 2 (f - e).toNat)

/-- The quotient of two doubles with a divisor that is not zero. -/
def div? (left right : Double) : Except NumericFault Double :=
  if right.isZero then
    .error .divisionByZero
  else
    .ok (left.div right)

/-- A finite double as an integer multiple of `2 ^ (-1074)`. -/
def units
    (negative : Bool)
    (significand : Nat)
    (exponent : Int) : Int :=
  let magnitude : Nat := significand * Nat.pow 2 (exponent + 1074).toNat
  if negative then -(magnitude : Int) else magnitude

/-- The sum of two doubles; two zeros of one sign keep it. -/
def add : Double → Double → Double
  | .nan, _ => .nan
  | _, .nan => .nan
  | .infinite s, .infinite t => if s = t then .infinite s else .nan
  | .infinite s, .finite .. => .infinite s
  | .finite .., .infinite t => .infinite t
  | .finite s m e _, .finite t n f _ =>
      let total := units s m e + units t n f
      if total = 0 then
        zero (s && t)
      else
        ofBinary (total < 0) total.natAbs (-1074)

/-- Compare two doubles by value; what is not a number compares with nothing. -/
def compare? : Double → Double → Option Ordering
  | .nan, _ => none
  | _, .nan => none
  | .infinite s, .infinite t => some (compare (!s).toNat (!t).toNat)
  | .infinite s, .finite .. => some (if s then .lt else .gt)
  | .finite .., .infinite t => some (if t then .gt else .lt)
  | .finite s m e _, .finite t n f _ => some (compare (units s m e) (units t n f))

/-- The left double is less than the right one. -/
def less (left right : Double) : Bool :=
  left.compare? right == some .lt

/-- The second of two doubles if it is less than the first, else the first. -/
def least (left right : Double) : Double :=
  if right.less left then right else left

/-- A finite double as a quotient of natural numbers with its sign. -/
def ratio
    (significand : Nat)
    (exponent : Int) : Nat × Nat :=
  (significand * Nat.pow 2 exponent.toNat, Nat.pow 2 (-exponent).toNat)

/-- The nearest integer, halves away from zero. -/
def round? : Double → Except NumericFault Int
  | .nan => .error .notANumber
  | .infinite _ => .error .overflow
  | .finite negative significand exponent _ =>
      let parts := ratio significand exponent
      let magnitude := roundQuotient .awayFromZero parts.1 parts.2
      .ok (if negative then -(magnitude : Int) else magnitude)

/-- The least integer that is not below a double. -/
def ceiling? : Double → Except NumericFault Int
  | .nan => .error .notANumber
  | .infinite _ => .error .overflow
  | .finite negative significand exponent _ =>
      let parts := ratio significand exponent
      if negative then
        .ok (-((parts.1 / parts.2 : Nat) : Int))
      else
        .ok (((parts.1 + parts.2 - 1) / parts.2 : Nat) : Int)

/-- The integer that a double without a fraction denotes. -/
def integer? : Double → Option Int
  | .finite negative significand exponent _ =>
      let parts := ratio significand exponent
      if parts.1 % parts.2 = 0 then
        let magnitude := parts.1 / parts.2
        some (if negative then -(magnitude : Int) else magnitude)
      else
        none
  | _ => none

end Double
end LabelPress
