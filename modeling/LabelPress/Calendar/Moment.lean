import LabelPress.Calendar.Pattern

/-!
# Moments

A date with a time of day and, if known, the distance from universal time.  Nothing
converts between time zones: a moment is kept as it is written.
-/

namespace LabelPress

/-- A date and a time of day as written. -/
structure Moment where
  /-- The date as written. -/
  date : Date
  /-- The hour of the day. -/
  hour : Nat
  /-- The minute of the hour. -/
  minute : Nat
  /-- The second of the minute. -/
  second : Nat
  /-- The millionths of the second. -/
  microsecond : Nat
  /-- Seconds ahead of universal time, unless unknown. -/
  offset : Option Int
deriving DecidableEq

namespace Moment

/-- The start of a day without a known offset. -/
def midnight (date : Date) : Moment :=
  ⟨date, 0, 0, 0, 0, none⟩

/-- The moment with a time of day, if its parts are in range. -/
def ofParts?
    (date : Date)
    (hour minute second microsecond : Nat)
    (offset : Option Int) : Option Moment :=
  if hour < 24 ∧ minute < 60 ∧ second < 60 then
    some ⟨date, hour, minute, second, microsecond, offset⟩
  else
    none

/-- Write an offset as a sign, hours and minutes, and seconds unless zero. -/
def offsetText (offset : Int) : Text :=
  let size := offset.natAbs
  let seconds := size % 60
  (if offset < 0 then '-' else '+') :: Numeral.twoDigits (size / 3600) ++
    ':' :: Numeral.twoDigits (size / 60 % 60) ++
    (if seconds = 0 then [] else ':' :: Numeral.twoDigits seconds)

/-- Write a moment with a character between date and time. -/
def write
    (separator : Char)
    (moment : Moment) : Text :=
  let fraction :=
    if moment.microsecond = 0 then
      []
    else
      '.' :: Numeral.padLeft 6 '0' (Numeral.ofNat moment.microsecond)
  moment.date.isoText ++ separator :: Numeral.twoDigits moment.hour ++
    ':' :: Numeral.twoDigits moment.minute ++
    ':' :: Numeral.twoDigits moment.second ++ fraction ++
    (moment.offset.map offsetText).getD []

/-- Write a moment with `T` between date and time. -/
def isoText (moment : Moment) : Text :=
  moment.write 'T'

/-- The moment a number of microseconds after the start of 1970 in universal time. -/
def ofEpoch? (microseconds : Int) : Option Moment := do
  let seconds := microseconds / 1000000
  let date ← Date.epoch.addDays? (seconds / 86400)
  let ofDay := (seconds % 86400).toNat
  return ⟨date, ofDay / 3600, ofDay / 60 % 60, ofDay % 60,
    (microseconds % 1000000).toNat, some 0⟩

/-- Millionths from the digits of a decimal fraction; further digits are dropped. -/
def fractionOfDigits (digits : List Nat) : Nat :=
  Numeral.value ((digits ++ List.replicate 6 0).take 6)

/-- Take an optional fraction of a second off a text. -/
def scanFraction? (text : Text) : Option (Nat × Text) :=
  match text with
  | c :: rest =>
      if c = '.' ∨ c = ',' then
        let digits := rest.takeWhile Text.isDigit
        if digits.isEmpty then
          none
        else
          some (fractionOfDigits (Text.digitValues digits), rest.drop digits.length)
      else
        some (0, text)
  | [] => some (0, [])

/-- Take optional seconds with an optional fraction off a text. -/
def scanSeconds? (text : Text) : Option (Nat × Nat × Text) :=
  match text with
  | ':' :: rest => do
      let (second, rest) ← Date.takeDigits? 2 rest
      let (fraction, rest) ← scanFraction? rest
      return (Numeral.value second, fraction, rest)
  | _ => some (0, 0, text)

/-- The offset that a text is as a whole, none for an empty text. -/
def parseOffset? (text : Text) : Option (Option Int) :=
  match text with
  | [] => some none
  | [zone] => if zone = 'Z' ∨ zone = 'z' then some (some 0) else none
  | sign :: rest => do
      let (hours, rest) ← Date.takeDigits? 2 rest
      let rest := if rest.head? = some ':' then rest.tail else rest
      let (minutes, rest) ← Date.takeDigits? 2 rest
      let seconds : Int := Numeral.value hours * 3600 + Numeral.value minutes * 60
      if rest ≠ [] ∨ Numeral.value minutes ≥ 60 ∨ seconds ≥ 86400 then
        none
      else if sign = '+' then
        some (some seconds)
      else if sign = '-' then
        some (some (-seconds))
      else
        none

/-- The moment that a text is in the form of a date, a separator and a time. -/
def parseIso? (text : Text) : Option Moment := do
  let (date, text) ← Date.scanIso? text
  let date ← date
  match text with
  | [] => return midnight date
  | separator :: text =>
      if separator ∉ ['T', 't', ' ', '_'] then
        none
      else
        let (hour, text) ← Date.takeDigits? 2 text
        let text ← Date.takeChar? ':' text
        let (minute, text) ← Date.takeDigits? 2 text
        let (second, microsecond, text) ← scanSeconds? text
        let offset ← parseOffset? text
        ofParts? date (Numeral.value hour) (Numeral.value minute) second microsecond offset

end Moment
end LabelPress
