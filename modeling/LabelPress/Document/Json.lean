import LabelPress.Document.Basic
import LabelPress.Number.Literal
import LabelPress.Text.Unit

/-!
# JSON documents

Reading a document from JSON.  Every reading takes characters off the front of a text and
leaves a shorter one, so reading always ends.
-/

namespace LabelPress
namespace Json

/-- A value read from the front of a text, and a shorter text than before. -/
structure Taken (α : Type) (text : Text) where
  /-- The value. -/
  value : α
  /-- The text that is left. -/
  rest : Text
  /-- At least one character was taken. -/
  shorter : rest.length < text.length

/-- Blanks between the parts of a document. -/
def isSpace (c : Char) : Bool :=
  c == ' ' || c == '\t' || c == '\n' || c == '\r'

/-- Skip blanks. -/
def skip (text : Text) : Text :=
  text.dropWhile isSpace

theorem length_skip_le (text : Text) : (skip text).length ≤ text.length :=
  (List.dropWhile_sublist isSpace).length_le

/-- The number that four hexadecimal digits denote. -/
def codeUnit? (a b c d : Char) : Option Nat := do
  return (((← Text.hexValue? a) * 16 + (← Text.hexValue? b)) * 16 + (← Text.hexValue? c)) * 16 +
    (← Text.hexValue? d)

/-- The character that an escape of one letter stands for. -/
def escapes : List (Char × Nat) :=
  [('\x22', 0x22), ('\\', 0x5c), ('/', 0x2f), ('b', 0x08), ('f', 0x0c), ('n', 0x0a),
    ('r', 0x0d), ('t', 0x09)]

/-- The code units of a string behind its opening quote, and the text behind it. -/
def units? : Text → Option (List Nat × Text)
  | '\x22' :: rest => some ([], rest)
  | '\\' :: 'u' :: a :: b :: c :: d :: rest => do
      let unit ← codeUnit? a b c d
      let (units, left) ← units? rest
      return (unit :: units, left)
  | '\\' :: c :: rest => do
      let unit ← escapes.lookup c
      let (units, left) ← units? rest
      return (unit :: units, left)
  | c :: rest =>
      if c = '\\' ∨ c.toNat < 0x20 then
        none
      else do
        let (units, left) ← units? rest
        return (c.toNat :: units, left)
  | [] => none

/-- A string ends behind its opening quote. -/
theorem units?_shorter
    {text : Text}
    {units : List Nat}
    {left : Text}
    (found : units? text = some (units, left)) :
    left.length < text.length := by
  fun_induction units? text generalizing units left with
  | case1 rest => grind
  | case2 a b c d rest ih => grind [Option.bind_eq_some_iff]
  | case3 c rest _ ih => grind [Option.bind_eq_some_iff]
  | case4 c rest _ => grind
  | case5 c rest _ _ ih => grind [Option.bind_eq_some_iff]
  | case6 => grind

/-- Read a string behind its opening quote. -/
def takeString? (text : Text) : Option (Taken Text text) :=
  match found : units? text with
  | some (units, left) => some ⟨Text.ofUnits units, left, units?_shorter found⟩
  | none => none

/-- The digits that a text starts with. -/
def digitsOf (text : Text) : Text :=
  text.takeWhile Char.isDigit

/-- The length of the fraction that a text starts with. -/
def fractionLength (text : Text) : Nat :=
  match text with
  | '.' :: rest => if (digitsOf rest).isEmpty then 0 else (digitsOf rest).length + 1
  | _ => 0

/-- The length of the exponent that a text starts with. -/
def exponentLength (text : Text) : Nat :=
  match text with
  | mark :: rest =>
      let (_, unsigned) := NumberLiteral.scanSign rest
      let digits := digitsOf unsigned
      if (mark = 'e' ∨ mark = 'E') ∧ digits ≠ [] then
        1 + (rest.length - unsigned.length) + digits.length
      else
        0
  | [] => 0

/-- The length of the part before a point: a zero, or digits that start otherwise. -/
def wholeLength (text : Text) : Nat :=
  if text.head? = some '0' then 1 else (digitsOf text).length

/-- The length of the number that a text starts with, and whether it is an integer. -/
def numberLength (text : Text) : Nat × Bool :=
  let sign := if text.head? = some '-' then 1 else 0
  let whole := wholeLength (text.drop sign)
  if whole = 0 then
    (0, true)
  else
    let fraction := fractionLength (text.drop (sign + whole))
    let exponent := exponentLength (text.drop (sign + whole + fraction))
    (sign + whole + fraction + exponent, fraction + exponent == 0)

/-- The value of a numeral. -/
def numberValue?
    (numeral : Text)
    (isInteger : Bool) : Option Document := do
  let (literal, _) ← NumberLiteral.scan? numeral
  if isInteger then
    match Numeral.read literal.negative literal.whole with
    | .ok value => some (.integer value)
    | .error _ => none
  else
    some (.real literal.value)

/-- The words that are values. -/
def words : List (Text × Document) :=
  [("null".toList, .null), ("true".toList, .boolean true),
    ("false".toList, .boolean false), ("NaN".toList, .real .nan),
    ("Infinity".toList, .real (.infinite false)),
    ("-Infinity".toList, .real (.infinite true))]

/-- Leave out some characters of a text that has any. -/
def drop?
    {α : Type}
    (value : α)
    (length : Nat)
    (text : Text) : Option (Taken α text) :=
  if present : 0 < length ∧ text ≠ [] then
    have positive := List.length_pos_iff.2 present.2
    some ⟨value, text.drop length, by rw [List.length_drop]; omega⟩
  else
    none

/-- Read a word or a number. -/
def takeAtom? (text : Text) : Option (Taken Document text) :=
  match words.find? fun word => word.1.isPrefixOf text with
  | some (word, value) => drop? value word.length text
  | none => do
      let (length, isInteger) := numberLength text
      let value ← numberValue? (text.take length) isInteger
      drop? value length text

/-- Read a character behind blanks. -/
def takeMark?
    (mark : Char)
    (text : Text) : Option (Taken Unit text) :=
  match found : skip text with
  | c :: rest =>
      if c = mark then
        some ⟨(), rest, by have := length_skip_le text; grind⟩
      else
        none
  | [] => none

/-- Read the name of a field and the colon behind it. -/
def takeName? (text : Text) : Option (Taken Text text) := do
  let ⟨_, opened, openedShorter⟩ ← takeMark? '\x22' text
  let ⟨name, named, namedShorter⟩ ← takeString? opened
  let ⟨_, left, shorter⟩ ← takeMark? ':' named
  return ⟨name, left, by omega⟩

mutual

/-- Read a value. -/
def take? (text : Text) : Option (Taken Document text) :=
  match takeMark? '[' text, takeMark? '\x7b' text, takeMark? '\x22' text with
  | some ⟨_, opened, openedShorter⟩, _, _ =>
      match takeMark? ']' opened with
      | some ⟨_, left, shorter⟩ => some ⟨.sequence [], left, by omega⟩
      | none => do
          let ⟨items, left, shorter⟩ ← takeItems? opened
          return ⟨.sequence items, left, by omega⟩
  | none, some ⟨_, opened, openedShorter⟩, _ =>
      match takeMark? '\x7d' opened with
      | some ⟨_, left, shorter⟩ => some ⟨.mapping [], left, by omega⟩
      | none => do
          let ⟨entries, left, shorter⟩ ← takeEntries? opened
          return ⟨Document.ofEntries entries, left, by omega⟩
  | none, none, some ⟨_, opened, openedShorter⟩ => do
      let ⟨value, left, shorter⟩ ← takeString? opened
      return ⟨.text value, left, by omega⟩
  | none, none, none => do
      let ⟨value, left, shorter⟩ ← takeAtom? (skip text)
      return ⟨value, left, by have := length_skip_le text; omega⟩
termination_by (text.length, 0)

/-- Read the items of a sequence behind its opening bracket. -/
def takeItems? (text : Text) : Option (Taken (List Document) text) := do
  let ⟨item, afterItem, itemShorter⟩ ← take? text
  match takeMark? ',' afterItem with
  | some ⟨_, next, nextShorter⟩ =>
      let ⟨items, left, shorter⟩ ← takeItems? next
      return ⟨item :: items, left, by omega⟩
  | none =>
      let ⟨_, left, shorter⟩ ← takeMark? ']' afterItem
      return ⟨[item], left, by omega⟩
termination_by (text.length, 1)

/-- Read the entries of a mapping behind its opening brace. -/
def takeEntries? (text : Text) : Option (Taken Document.Entries text) := do
  let ⟨name, named, namedShorter⟩ ← takeName? text
  let ⟨value, afterValue, valueShorter⟩ ← take? named
  match takeMark? ',' afterValue with
  | some ⟨_, next, nextShorter⟩ =>
      let ⟨entries, left, shorter⟩ ← takeEntries? next
      return ⟨(.text name, value) :: entries, left, by omega⟩
  | none =>
      let ⟨_, left, shorter⟩ ← takeMark? '\x7d' afterValue
      return ⟨[(.text name, value)], left, by omega⟩
termination_by (text.length, 1)

end

end Json

/-- The document that a JSON text holds. -/
def Document.ofJson? (text : Text) : Option Document := do
  let ⟨document, left, _⟩ ← Json.take? text
  if (Json.skip left).isEmpty then some document else none

end LabelPress
