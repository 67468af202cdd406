import LabelPress.Number.Literal
import LabelPress.Schema.Check

/-!
# Scalars

How texts, numbers, truth values and moments are read from a data file.  A number may
also be given as a text or as a truth value, and a truth value as a word or as zero or
one; a text has to be a text.
-/

namespace LabelPress
namespace Check

/-- A blank character other than the separator controls. -/
def isSpace (c : Char) : Bool :=
  Text.isBlank c && !(0x1c ≤ c.toNat && c.toNat ≤ 0x1f)

/-- Remove the spaces at both ends. -/
def trimSpaces (text : Text) : Text :=
  ((text.dropWhile isSpace).reverse.dropWhile isSpace).reverse

/-- Take single underscores out of a text that neither starts nor ends with one. -/
def dropUnderscores? (text : Text) : Option Text :=
  if text.head? = some '_' ∨ text.getLast? = some '_' ∨ Text.contains ['_', '_'] text then
    none
  else
    some (text.filter (· != '_'))

/-- The digits that a text starts with, ASCII ones only. -/
def leadingDigits (text : Text) : Text :=
  text.takeWhile Char.isDigit

/-- The exponent that a text is as a whole, zero for an empty text. -/
def parseExponent? (text : Text) : Option Int :=
  match text with
  | [] => some 0
  | mark :: rest =>
      let signed := NumberLiteral.scanSign rest
      let digits := leadingDigits signed.2
      if (mark ≠ 'e' ∧ mark ≠ 'E') ∨ digits = [] ∨ digits.length ≠ signed.2.length then
        none
      else
        let magnitude : Int := Numeral.value (Text.digitValues digits)
        some (if signed.1 then -magnitude else magnitude)

/-- The number without a sign that a text is as a whole. -/
def parseMagnitude?
    (negative : Bool)
    (text : Text) : Option Double :=
  let word := text.map Char.toLower
  if word = "inf".toList ∨ word = "infinity".toList then
    some (.infinite negative)
  else if word = "nan".toList then
    some .nan
  else
    let whole := leadingDigits text
    let rest := text.drop whole.length
    let fraction := if rest.head? = some '.' then leadingDigits rest.tail else []
    let rest := if rest.head? = some '.' then rest.tail.drop fraction.length else rest
    if whole = [] ∧ fraction = [] then
      none
    else
      (parseExponent? rest).map fun exponent =>
        Double.ofDecimal negative (Numeral.value (Text.digitValues (whole ++ fraction)))
          (exponent - fraction.length)

/-- The number that a text is as a whole. -/
def parseReal? (text : Text) : Option Double :=
  let signed := NumberLiteral.scanSign text
  parseMagnitude? signed.1 signed.2

/-- A number that a text between spaces is, or that it is without underscores. -/
def parseRealText? (text : Text) : Option Double :=
  match parseReal? (trimSpaces text) with
  | some value => some value
  | none => (dropUnderscores? text).bind parseReal?

/-- A text. -/
def text : Document → Check Text
  | .text value => .ok value
  | _ => reject .stringType

/-- A double precision number. -/
def real : Document → Check Double
  | .real value => .ok value
  | .integer value =>
      match Double.ofInt? value with
      | .ok double => .ok double
      | .error _ => reject .floatType
  | .boolean value => .ok (Double.ofInt value.toNat)
  | .text value =>
      match parseRealText? value with
      | some double => .ok double
      | none => reject .floatParsing
  | _ => reject .floatType

/-- The least number that an integer of 64 bits with a sign cannot be. -/
def wordBound : Int := 9223372036854775808

/-- The integer without a fraction that a double is, within 64 bits. -/
def integerOfDouble (double : Double) : Check Int :=
  if !double.isFinite then
    reject .finiteNumber
  else
    match double.integer? with
    | some value =>
        if -wordBound < value ∧ value < wordBound then .ok value else reject .intFromFloat
    | none => reject .intFromFloat

/-- Cut the zeros after a point off a text, and the point. -/
def dropZeroFraction (text : Text) : Text :=
  let fraction := text.dropWhile (· != '.')
  if fraction.tail.all (· == '0') then
    text.takeWhile (· != '.')
  else
    text

/-- The digits of an integer, with single underscores between them. -/
def integerDigits? (text : Text) : Option Text := do
  let digits ← dropUnderscores? (dropZeroFraction text)
  if digits ≠ [] ∧ digits.all Char.isDigit then
    some digits
  else
    none

/-- An integer that a text between spaces is. -/
def integerOfText (text : Text) : Check Int :=
  let signed := NumberLiteral.scanSign (trimSpaces text)
  match integerDigits? signed.2 with
  | none => reject .intParsing
  | some digits =>
      match Numeral.read signed.1 (Text.digitValues digits) with
      | .ok value => .ok value
      | .error _ => reject .intParsingSize

/-- An integer. -/
def integer : Document → Check Int
  | .integer value => .ok value
  | .boolean value => .ok value.toNat
  | .real value => integerOfDouble value
  | .text value => integerOfText value
  | _ => reject .intType

/-- The words for true, in lower case. -/
def trueWords : List Text :=
  ["1".toList, "true".toList, "t".toList, "yes".toList, "y".toList, "on".toList]

/-- The words for false, in lower case. -/
def falseWords : List Text :=
  ["0".toList, "false".toList, "f".toList, "no".toList, "n".toList, "off".toList]

/-- The truth value that an integer of 64 bits is. -/
def booleanOfInteger (value : Int) : Check Bool :=
  if value = 0 then
    .ok false
  else if value = 1 then
    .ok true
  else if -wordBound ≤ value ∧ value < wordBound then
    reject .boolParsing
  else
    reject .boolType

/-- A truth value. -/
def boolean : Document → Check Bool
  | .boolean value => .ok value
  | .integer value => booleanOfInteger value
  | .real value =>
      match integerOfDouble value with
      | .ok whole => booleanOfInteger whole
      | .error _ => reject .boolType
  | .text value =>
      let word := value.map Char.toLower
      if trueWords.contains word then
        .ok true
      else if falseWords.contains word then
        .ok false
      else
        reject .boolParsing
  | _ => reject .boolType

/-- Beyond this many seconds a count of time is one of milliseconds. -/
def secondsLimit : Int := 20000000000

/-- The moment that a count of seconds or milliseconds from 1970 says. -/
def momentOfCount? (count : Int) : Option Moment :=
  if count.natAbs > secondsLimit.toNat then
    Moment.ofEpoch? (count * 1000)
  else
    Moment.ofEpoch? (count * 1000000)

/-- The moment that a text says, as a date with a time or as a count. -/
def momentOfText? (text : Text) : Option Moment :=
  let signed := NumberLiteral.scanSign text
  if signed.2 ≠ [] ∧ signed.2.all Char.isDigit then
    let magnitude : Int := Numeral.value (Text.digitValues signed.2)
    momentOfCount? (if signed.1 then -magnitude else magnitude)
  else if text.all (·.toNat < 128) then
    Moment.parseIso? text
  else
    none

/-- A date with a time of day. -/
def moment : Document → Check Moment
  | .moment value => .ok value
  | .date value => .ok (.midnight value)
  | .integer value =>
      match momentOfCount? value with
      | some found => .ok found
      | none => reject .datetimeParsing
  | .text value =>
      match momentOfText? value with
      | some found => .ok found
      | none => reject .datetimeParsing
  | _ => reject .datetimeType

/-- A mapping of texts to texts. -/
def textMapping : Document → Check (List (Text × Text))
  | .mapping entries =>
      all (entries.map fun entry =>
        match entry.1 with
        | .text name =>
            within (.field name) ((text entry.2).map fun value => (name, value))
        | _ => reject .stringType)
  | _ => reject .dictType

end Check
end LabelPress
