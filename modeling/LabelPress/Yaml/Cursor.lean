import LabelPress.Text.Search

/-!
# Reading positions

The unread part of a YAML text together with the line and the column where it starts, and
the ways in which reading can fail.

The modules of this folder read the YAML of collections by indentation and in brackets, of
plain and quoted scalars, comments and the markers of a document.  Anchors, aliases, tags,
block scalars, directives, merge keys and escapes of one half of a character are known by
sight only: a text that holds one of them is `notCovered`.
-/

namespace LabelPress
namespace Yaml

/-- Why a text gives no document. -/
inductive Fault where
  /-- A character that no document can hold. -/
  | unprintable
  /-- Characters that form no token. -/
  | badToken
  /-- A token at a place where none of its kind can stand. -/
  | unexpectedToken
  /-- A second document in the same text. -/
  | severalDocuments
  /-- A sequence or a mapping as a key, or a scalar of an unknown kind. -/
  | unsupportedValue
  /-- A scalar in the form of a date, a number or an escape that denotes none. -/
  | badValue
  /-- Any other failure that is none of YAML, such as too deep a nesting. -/
  | crash
  /-- The text holds a part of YAML that is not read here. -/
  | notCovered
deriving DecidableEq

/-- A fault that a reader of YAML reports as one of YAML; the others are failures of its own. -/
def Fault.isYaml : Fault → Bool
  | .unprintable => true
  | .badToken => true
  | .unexpectedToken => true
  | .severalDocuments => true
  | .unsupportedValue => true
  | .badValue => false
  | .crash => false
  | .notCovered => false

/-- A character that ends a line. -/
def isBreak (c : Char) : Bool :=
  c == '\n' || c.toNat == 0x85 || c.toNat == 0x2028 || c.toNat == 0x2029

/-- The line break that a character stands for in the value of a scalar. -/
def breakValue (c : Char) : Char :=
  if c.toNat = 0x85 then '\n' else c

/-- The end of the text, a line break, a space or a tab. -/
def isGap : Option Char → Bool
  | none => true
  | some c => c == ' ' || c == '\t' || isBreak c

/-- A character that a document can hold. -/
def isPrintable (c : Char) : Bool :=
  Text.inRanges
    [(0x09, 0x0a), (0x0d, 0x0d), (0x20, 0x7e), (0x85, 0x85), (0xa0, 0xd7ff),
      (0xe000, 0xfffd), (0x10000, 0x10ffff)] c

/-- The unread part of a text and where it starts. -/
structure Cursor where
  /-- The number of characters of the whole text. -/
  size : Nat
  /-- The unread part. -/
  rest : Text
  /-- The number of characters read. -/
  index : Nat
  /-- The number of lines read. -/
  line : Nat
  /-- The number of characters read of the line. -/
  column : Nat

namespace Cursor

/-- The start of a text. -/
def start (text : Text) : Cursor :=
  ⟨text.length, text, 0, 0, 0⟩

/-- The next character. -/
def peek? (cursor : Cursor) : Option Char :=
  cursor.rest.head?

/-- The character a number of places after the next one. -/
def peekAt?
    (cursor : Cursor)
    (distance : Nat) : Option Char :=
  cursor.rest[distance]?

/-- The number of characters that are not read yet. -/
def unread (cursor : Cursor) : Nat :=
  cursor.size - cursor.index

/-- Read one character. -/
def advance (cursor : Cursor) : Cursor :=
  match cursor.rest with
  | [] => cursor
  | c :: rest =>
      if isBreak c then
        ⟨cursor.size, rest, cursor.index + 1, cursor.line + 1, 0⟩
      else if c.toNat = 0xfeff then
        ⟨cursor.size, rest, cursor.index + 1, cursor.line, cursor.column⟩
      else
        ⟨cursor.size, rest, cursor.index + 1, cursor.line, cursor.column + 1⟩

/-- Read a number of characters. -/
def advanceBy : Nat → Cursor → Cursor
  | 0, cursor => cursor
  | count + 1, cursor => advanceBy count cursor.advance

/-- Read the characters that satisfy a condition. -/
def advanceWhile
    (condition : Char → Bool)
    (cursor : Cursor) : Text × Cursor :=
  let read := cursor.rest.takeWhile condition
  (read, cursor.advanceBy read.length)

/-- A marker of three characters that separates documents stands at the cursor. -/
def atMarker
    (marker : Text)
    (cursor : Cursor) : Bool :=
  marker.isPrefixOf cursor.rest && isGap (cursor.peekAt? 3)

/-- A marker of either kind stands at the cursor. -/
def atDocumentMarker (cursor : Cursor) : Bool :=
  cursor.atMarker "---".toList || cursor.atMarker "...".toList

end Cursor
end Yaml
end LabelPress
