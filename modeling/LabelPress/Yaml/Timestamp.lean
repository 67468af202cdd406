import LabelPress.Calendar.Moment
import LabelPress.Yaml.Cursor

/-!
# Timestamps in plain scalars

A date of four, two and two digits, or a date with a time of day, whose parts other than
the year, the minutes and the seconds may have one digit.
-/

namespace LabelPress
namespace Yaml
namespace Timestamp

/-- Take as many digits as there are between two bounds off a text. -/
def takeNumber?
    (least most : Nat)
    (text : Text) : Option (Nat × Text) :=
  let digits := (text.take most).takeWhile Char.isDigit
  if digits.length < least then
    none
  else
    some (Numeral.value (Text.digitValues digits), text.drop digits.length)

/-- Take what divides a date and a time off a text. -/
def takeDivider? : Text → Option Text
  | [] => none
  | c :: rest =>
      if c = 'T' ∨ c = 't' then
        some rest
      else if c = ' ' ∨ c = '\t' then
        some (rest.dropWhile fun d => d == ' ' || d == '\t')
      else
        none

/-- Take an optional fraction of a second off a text, in millionths. -/
def takeFraction (text : Text) : Nat × Text :=
  match text with
  | '.' :: rest =>
      let digits := rest.takeWhile Char.isDigit
      (Moment.fractionOfDigits (Text.digitValues digits), rest.drop digits.length)
  | _ => (0, text)

/-- The minutes of an offset that a text is as a whole, zero for an empty text. -/
def offsetMinutes? : Text → Option Nat
  | [] => some 0
  | ':' :: rest =>
      match takeNumber? 2 2 rest with
      | some (minutes, []) => some minutes
      | _ => none
  | _ => none

/-- The offset that a text is as a whole, none for an empty text. -/
def offset? (text : Text) : Option (Option Int) :=
  match text.dropWhile fun c => c == ' ' || c == '\t' with
  | [] => if text = [] then some none else none
  | ['Z'] => some (some 0)
  | sign :: rest => do
      let (hours, rest) ← takeNumber? 1 2 rest
      let minutes ← offsetMinutes? rest
      let seconds : Int := hours * 3600 + minutes * 60
      if sign = '+' then
        some (some seconds)
      else if sign = '-' then
        some (some (-seconds))
      else
        none

/-- The date and the rest of a text that starts with a year, a month and a day. -/
def takeDate?
    (least : Nat)
    (text : Text) : Option (Option Date × Text) := do
  let (year, text) ← takeNumber? 4 4 text
  let text ← Date.takeChar? '-' text
  let (month, text) ← takeNumber? least 2 text
  let text ← Date.takeChar? '-' text
  let (day, text) ← takeNumber? least 2 text
  return (Date.ofYearMonthDay? year month day, text)

/-- The date that a text has the form of; the calendar may not have it. -/
def date? (text : Text) : Option (Except Fault Date) :=
  match takeDate? 2 text with
  | some (some date, []) => some (.ok date)
  | some (none, []) => some (.error .badValue)
  | _ => none

/-- The moment with a date, a time of day and an offset, if all of them are in range. -/
def assemble
    (date : Option Date)
    (hour minute second microsecond : Nat)
    (offset : Option Int) : Except Fault Moment :=
  if offset.any (86400 ≤ ·.natAbs) then
    .error .badValue
  else
    match date.bind fun date => Moment.ofParts? date hour minute second microsecond offset with
    | some moment => .ok moment
    | none => .error .badValue

/-- The moment that a text has the form of; its parts may be out of range. -/
def moment? (text : Text) : Option (Except Fault Moment) := do
  let (date, text) ← takeDate? 1 text
  let text ← takeDivider? text
  let (hour, text) ← takeNumber? 1 2 text
  let text ← Date.takeChar? ':' text
  let (minute, text) ← takeNumber? 2 2 text
  let text ← Date.takeChar? ':' text
  let (second, text) ← takeNumber? 2 2 text
  let (microsecond, text) := takeFraction text
  let offset ← offset? text
  return assemble date hour minute second microsecond offset

end Timestamp
end Yaml
end LabelPress
