import LabelPress.Number.Double
import LabelPress.Number.Numeral
import LabelPress.Text.Digit

/-!
# Number literals

A number literal is an optional sign, digits, optionally a point with digits, and
optionally an exponent with digits; digits of every script count.  A text can start
with a literal or be one as a whole, and the conversions of cells to numbers build
on that: an integer or a double is read from the longest literal that a text starts
with, while a text is a number only as a whole.
-/

namespace LabelPress

/-- The parts of a number literal. -/
structure NumberLiteral where
  /-- The literal has a minus sign. -/
  negative : Bool
  /-- The digits before the point. -/
  whole : List Nat
  /-- The digits after the point. -/
  fraction : List Nat
  /-- The exponent has a minus sign. -/
  exponentNegative : Bool
  /-- The digits of the exponent. -/
  exponent : List Nat

namespace NumberLiteral

/-- Take a sign off a text. -/
def scanSign : Text → Bool × Text
  | '+' :: rest => (false, rest)
  | '-' :: rest => (true, rest)
  | text => (false, text)

/-- Take the digits that a text starts with. -/
def scanDigits : Text → List Nat × Text
  | [] => ([], [])
  | c :: rest =>
      match Text.digitValue? c with
      | none => ([], c :: rest)
      | some digit =>
          let others := scanDigits rest
          (digit :: others.1, others.2)

/-- Take a point and digits; a point without digits stays. -/
def scanFraction (text : Text) : List Nat × Text :=
  match text with
  | '.' :: rest =>
      match scanDigits rest with
      | ([], _) => ([], text)
      | found => found
  | _ => ([], text)

/-- Take an exponent; a mark without digits stays. -/
def scanExponent (text : Text) : Bool × List Nat × Text :=
  match text with
  | c :: rest =>
      if c = 'e' ∨ c = 'E' then
        let signed := scanSign rest
        match scanDigits signed.2 with
        | ([], _) => (false, [], text)
        | found => (signed.1, found)
      else
        (false, [], text)
  | [] => (false, [], [])

/-- The longest literal that a text starts with, and the text after it. -/
def scan? (text : Text) : Option (NumberLiteral × Text) :=
  let signed := scanSign text
  match scanDigits signed.2 with
  | ([], _) => none
  | (whole, afterWhole) =>
      let fraction := scanFraction afterWhole
      let exponent := scanExponent fraction.2
      some (⟨signed.1, whole, fraction.1, exponent.1, exponent.2.1⟩, exponent.2.2)

/-- The power of ten that the exponent says. -/
def power (literal : NumberLiteral) : Int :=
  let magnitude : Int := Numeral.value literal.exponent
  if literal.exponentNegative then -magnitude else magnitude

/-- The double nearest to the number that a literal denotes. -/
def value (literal : NumberLiteral) : Double :=
  Double.ofDecimal literal.negative (Numeral.value (literal.whole ++ literal.fraction))
    (literal.power - literal.fraction.length)

end NumberLiteral

/-- The number that a text is as a whole. -/
def parseNumber? (text : Text) : Option Double :=
  match NumberLiteral.scan? text with
  | some (literal, []) => some literal.value
  | _ => none

/-- The number that a text starts with, or zero. -/
def leadingNumber (text : Text) : Double :=
  match NumberLiteral.scan? text with
  | some (literal, _) => literal.value
  | none => Double.zero false

/-- The integer that a text starts with, or a default. -/
def leadingInteger
    (text : Text)
    (default : Int) : Except NumericFault Int :=
  let signed := NumberLiteral.scanSign text
  match NumberLiteral.scanDigits signed.2 with
  | ([], _) => .ok default
  | (digits, _) => Numeral.read signed.1 digits

end LabelPress
