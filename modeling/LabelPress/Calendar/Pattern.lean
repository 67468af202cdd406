import LabelPress.Calendar.Date
import LabelPress.Number.Numeral
import LabelPress.Text.Digit
import LabelPress.Text.Search

/-!
# Date patterns

A date is written by replacing the fields of a pattern: `DD`, `MM`, `AAAA` and `AA`
by the parts of the date, and `hh`, `mm` and `ss` by zeros, because a label knows no
time of day.  A date is read from the form year-month-day.
-/

namespace LabelPress
namespace Date

/-- The year as a numeral without padding. -/
def yearText (date : Date) : Text :=
  Numeral.ofNat date.year

/-- The last two digits of the year. -/
def shortYearText (date : Date) : Text :=
  date.yearText.drop (date.yearText.length - 2)

/-- Replace the fields of a pattern one after the other. -/
def replaceFields
    (fields : List (Text × Text))
    (pattern : Text) : Text :=
  fields.foldl (fun text field => Text.replaceAll field.1 field.2 text) pattern

/-- The fields of a date pattern in the order in which they are replaced. -/
def patternFields (date : Date) : List (Text × Text) :=
  [("DD".toList, Numeral.twoDigits date.day),
    ("MM".toList, Numeral.twoDigits date.month),
    ("AAAA".toList, date.yearText),
    ("AA".toList, date.shortYearText),
    ("hh".toList, "00".toList),
    ("mm".toList, "00".toList),
    ("ss".toList, "00".toList)]

/-- Write a date by a pattern. -/
def format
    (date : Date)
    (pattern : Text) : Text :=
  replaceFields date.patternFields pattern

/-- Write a date as year, month and day with a fixed number of digits. -/
def isoText (date : Date) : Text :=
  Numeral.fourDigits date.year ++ '-' :: Numeral.twoDigits date.month ++
    '-' :: Numeral.twoDigits date.day

/-- Take exactly a number of digits off a text. -/
def takeDigits? : Nat → Text → Option (List Nat × Text)
  | 0, text => some ([], text)
  | _ + 1, [] => none
  | count + 1, c :: rest => do
      let digit ← Text.digitValue? c
      let others ← takeDigits? count rest
      return (digit :: others.1, others.2)

/-- Take one given character off a text. -/
def takeChar?
    (expected : Char) : Text → Option Text
  | [] => none
  | c :: rest => if c = expected then some rest else none

/-- Read a year-month-day date off a text, and what follows it. -/
def scanIso? (text : Text) : Option (Option Date × Text) := do
  let (year, text) ← takeDigits? 4 text
  let text ← takeChar? '-' text
  let (month, text) ← takeDigits? 2 text
  let text ← takeChar? '-' text
  let (day, text) ← takeDigits? 2 text
  return (ofYearMonthDay? (Numeral.value year) (Numeral.value month) (Numeral.value day), text)

/-- The date that a text between blanks is. -/
def parse? (text : Text) : Option Date :=
  match scanIso? (Text.trim text) with
  | some (date, []) => date
  | _ => none

end Date
end LabelPress
