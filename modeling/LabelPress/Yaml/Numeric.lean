import LabelPress.Number.Literal
import LabelPress.Yaml.Cursor

/-!
# Numbers in plain scalars

A plain scalar is an integer or a real number by its form alone: integers are binary,
octal, decimal, hexadecimal or counted in sixties, and reals have a point.  Underscores
between the digits mean nothing, and an exponent has a sign.
-/

namespace LabelPress
namespace Yaml
namespace Numeric

/-- A decimal digit or an underscore. -/
def isFiller (c : Char) : Bool :=
  c.isDigit || c == '_'

/-- A digit of some radix up to sixteen or an underscore. -/
def isRadixFiller
    (radix : Nat)
    (c : Char) : Bool :=
  c == '_' || (Text.hexValue? c).any (· < radix)

/-- The decimal digits of a text. -/
def digitsOf (text : Text) : List Nat :=
  Text.digitValues (text.filter Char.isDigit)

/-- A text that starts with a digit and goes on with digits and underscores. -/
def isFilled (text : Text) : Bool :=
  text.head?.any Char.isDigit && text.all isFiller

/-- The integer with digits of some radix, of which there has to be one. -/
def ofRadix
    (radix : Nat)
    (negative : Bool)
    (text : Text) : Except Fault Int :=
  match text.filterMap Text.hexValue? with
  | [] => .error .badValue
  | digits =>
      let magnitude : Nat := digits.foldl (fun total digit => total * radix + digit) 0
      .ok (if negative then -(magnitude : Int) else magnitude)

/-- A number below sixty in one or two digits. -/
def isSixtieth (text : Text) : Bool :=
  text.all Char.isDigit &&
    (text.length == 1 || (text.length == 2 && text.head?.any (· ≤ '5')))

/-- The integer that parts between colons denote, each counting sixty of the next. -/
def ofSixties
    (negative : Bool)
    (first : Text)
    (others : List Text) : Except Fault Int :=
  match Numeral.read false (digitsOf first) with
  | .error _ => .error .badValue
  | .ok start =>
      let magnitude : Int :=
        others.foldl (fun total part => total * 60 + Numeral.value (digitsOf part)) start
      .ok (if negative then -magnitude else magnitude)

/-- The integer that a text denotes, if it has the form of one. -/
def integer? (text : Text) : Option (Except Fault Int) :=
  let (negative, body) := NumberLiteral.scanSign text
  match body with
  | [] => none
  | ['0'] => some (.ok 0)
  | '0' :: 'b' :: rest =>
      if rest ≠ [] ∧ rest.all (isRadixFiller 2) then some (ofRadix 2 negative rest) else none
  | '0' :: 'x' :: rest =>
      if rest ≠ [] ∧ rest.all (isRadixFiller 16) then
        some (ofRadix 16 negative rest)
      else
        none
  | '0' :: rest =>
      if rest.all (isRadixFiller 8) then some (ofRadix 8 negative ('0' :: rest)) else none
  | _ =>
      match Text.splitAt ':' body with
      | first :: others =>
          if isFilled first ∧ others.all isSixtieth then
            some (ofSixties negative first others)
          else
            none
      | [] => none

/-- The exponent with a sign that a text is as a whole, zero for an empty text. -/
def exponent? (text : Text) : Option Int :=
  match text with
  | [] => some 0
  | mark :: sign :: digits =>
      if (mark = 'e' ∨ mark = 'E') ∧ (sign = '+' ∨ sign = '-') ∧ digits ≠ [] ∧
          digits.all Char.isDigit then
        let magnitude : Int := Numeral.value (Text.digitValues digits)
        some (if sign = '-' then -magnitude else magnitude)
      else
        none
  | _ => none

/-- The real that a text with a point denotes, which may lack a first part if `bare`. -/
def decimal?
    (negative bare : Bool)
    (text : Text) : Option Double :=
  let whole := text.takeWhile isFiller
  match text.drop whole.length with
  | '.' :: rest =>
      let fraction := rest.takeWhile isFiller
      if isFilled whole ∨ (bare ∧ whole = [] ∧ isFilled fraction) then
        (exponent? (rest.drop fraction.length)).map fun exponent =>
          let places := digitsOf fraction
          Double.ofDecimal negative (Numeral.value (digitsOf whole ++ places))
            (exponent - places.length)
      else
        none
  | _ => none

/-- The sum of parts of which each counts sixty of the one before it. -/
def sumOfSixties : Int → List Double → Double → Double
  | _, [], total => total
  | weight, part :: others, total =>
      sumOfSixties (weight * 60) others (total.add (part.mul (Double.ofInt weight)))

/-- The real that parts between colons denote, of which the last one has a point. -/
def sixtiesReal?
    (negative : Bool)
    (text : Text) : Option Double :=
  let parts := Text.splitAt ':' (text.takeWhile (· != '.'))
  let fraction := text.dropWhile (· != '.')
  match parts, fraction with
  | first :: second :: others, '.' :: places =>
      if isFilled first ∧ (second :: others).all isSixtieth ∧ places.all isFiller then
        let wholes := (first :: second :: others).dropLast.map fun part =>
          Double.ofDecimal false (Numeral.value (digitsOf part)) 0
        let last := ((second :: others).getLastD []) ++ fraction
        (decimal? false false last).map fun least =>
          let total := sumOfSixties 1 (least :: wholes.reverse) (Double.zero false)
          if negative then total.mul (Double.ofInt (-1)) else total
      else
        none
  | _, _ => none

/-- The spellings of infinity behind a sign. -/
def infinityWords : List Text := [".inf".toList, ".Inf".toList, ".INF".toList]

/-- The spellings of what is not a number. -/
def nanWords : List Text := [".nan".toList, ".NaN".toList, ".NAN".toList]

/-- The real that a text denotes, if it has the form of one. -/
def real? (text : Text) : Option Double :=
  let (negative, body) := NumberLiteral.scanSign text
  if nanWords.contains text then
    some .nan
  else if infinityWords.contains body then
    some (.infinite negative)
  else
    match decimal? negative (body.length == text.length) body with
    | some value => some value
    | none => sixtiesReal? negative body

end Numeric
end Yaml
end LabelPress
