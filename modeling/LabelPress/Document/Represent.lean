import LabelPress.Document.Basic
import LabelPress.Text.Printable
import LabelPress.Text.Search

/-!
# Values as cells

The cell that a value of a data file is.  A sequence or a mapping shows as it is written in
full: with brackets and commas, texts between quotes, dates and moments by their parts.
-/

namespace LabelPress

namespace Text

/-- A character by its code point: a backslash, a letter and hexadecimal digits. -/
def codeEscape
    (letter : Char)
    (width : Nat)
    (c : Char) : Text :=
  '\\' :: letter :: Numeral.padLeft width '0' (Nat.toDigits 16 c.toNat)

/-- A character between quotes. -/
def quoteChar (quote c : Char) : Text :=
  if c = quote ∨ c = '\\' then
    ['\\', c]
  else if c = '\t' then
    ['\\', 't']
  else if c = '\n' then
    ['\\', 'n']
  else if c = '\r' then
    ['\\', 'r']
  else if isPrintable c then
    [c]
  else if c.toNat < 0x100 then
    codeEscape 'x' 2 c
  else if c.toNat < 0x10000 then
    codeEscape 'u' 4 c
  else
    codeEscape 'U' 8 c

/-- The quote of a text: a single one, unless the text has such quotes and no double ones. -/
def quoteOf (text : Text) : Char :=
  if '\x27' ∈ text ∧ '\x22' ∉ text then '\x22' else '\x27'

/-- A text between quotes. -/
def quoted (text : Text) : Text :=
  quoteOf text :: text.flatMap (quoteChar (quoteOf text)) ++ [quoteOf text]

/-- A call with its arguments. -/
def call
    (name : String)
    (arguments : List Text) : Text :=
  name.toList ++ '(' :: join ", ".toList arguments ++ [')']

end Text

/-- The parts of a date in a call. -/
def Date.parts (date : Date) : List Text :=
  [Numeral.ofNat date.year, Numeral.ofNat date.month, Numeral.ofNat date.day]

namespace Moment

/-- The parts of the time of day in a call; seconds and their millionths only if needed. -/
def timeParts (moment : Moment) : List Text :=
  let fraction := if moment.microsecond = 0 then [] else [Numeral.ofNat moment.microsecond]
  let seconds :=
    if moment.second = 0 ∧ moment.microsecond = 0 then [] else [Numeral.ofNat moment.second]
  [Numeral.ofNat moment.hour, Numeral.ofNat moment.minute] ++ seconds ++ fraction

/-- The call that makes an offset; a negative one is counted from a day before. -/
def zoneCall (offset : Int) : Text :=
  if offset = 0 then
    "datetime.timezone.utc".toList
  else
    let days := if offset < 0 then ["days=-1".toList] else []
    let seconds := "seconds=".toList ++ Numeral.ofInt (offset % 86400)
    Text.call "datetime.timezone" [Text.call "datetime.timedelta" (days ++ [seconds])]

/-- The call that makes a moment. -/
def call (moment : Moment) : Text :=
  let zone := moment.offset.toList.map fun offset => "tzinfo=".toList ++ zoneCall offset
  Text.call "datetime.datetime" (moment.date.parts ++ moment.timeParts ++ zone)

end Moment

namespace Document

mutual

/-- A value inside another one in full, or an integer in it that has too many digits. -/
def represent : Document → Except Int Text
  | .null => .ok "None".toList
  | .boolean value => .ok (if value then "True".toList else "False".toList)
  | .integer value => (Numeral.write value).mapError fun _ => value
  | .real value => .ok value.toText
  | .text value => .ok (Text.quoted value)
  | .date value => .ok (Text.call "datetime.date" value.parts)
  | .moment value => .ok value.call
  | .sequence items =>
      (representItems items).map fun parts => '[' :: Text.join ", ".toList parts ++ [']']
  | .mapping entries =>
      (representEntries entries).map fun parts =>
        '\x7b' :: Text.join ", ".toList parts ++ ['\x7d']

/-- The items of a sequence in full. -/
def representItems : List Document → Except Int (List Text)
  | [] => .ok []
  | item :: others => do
      let first ← item.represent
      return first :: (← representItems others)

/-- The entries of a mapping in full. -/
def representEntries : List (Document × Document) → Except Int (List Text)
  | [] => .ok []
  | (key, value) :: others => do
      let name ← key.represent
      let part ← value.represent
      return (name ++ ": ".toList ++ part) :: (← representEntries others)

end

/--
The cell that a value is.  A sequence or a mapping shows as it is written in full; with an
integer in it that has too many digits it shows as little as this integer alone.
-/
def toCell : Document → Cell
  | .null => .null
  | .boolean value => .flag value
  | .integer value => .integer value
  | .real value => .real value
  | .text value => .text value
  | .date value => .date value
  | .moment value => .moment value
  | collection =>
      match collection.represent with
      | .ok written => .text written
      | .error unwritable => .integer unwritable

end Document
end LabelPress
