import LabelPress.Text.Digit
import LabelPress.Text.Unit
import LabelPress.Yaml.Cursor

/-!
# Scalars in the text

How the value of a scalar is read: plain ones up to a character that ends them, quoted
ones up to their quote.  Inside a scalar a single line break counts as a space and an
empty line as a line break.
-/

namespace LabelPress
namespace Yaml

/-- The value of the line breaks and blank lines between two parts of a scalar. -/
def foldBreaks
    (first : Char)
    (others : Text) : Text :=
  if first ≠ '\n' then
    first :: others
  else if others.isEmpty then
    [' ']
  else
    others

namespace Plain

/-- The characters that end a plain scalar inside brackets. -/
def flowEnds : List Char := [',', '?', '[', ']', '\x7b', '\x7d']

/-- A plain scalar ends before a character that is followed by another one. -/
def endsAt
    (inFlow : Bool)
    (c : Char)
    (following : Option Char) : Bool :=
  isGap (some c) ||
    (c == ':' &&
      (isGap following ||
        (inFlow && following.any fun next =>
          [',', '[', ']', '\x7b', '\x7d'].contains next))) ||
    (inFlow && flowEnds.contains c)

/-- The characters of a plain scalar up to a gap or its end. -/
def chunk (inFlow : Bool) : Text → Text
  | [] => []
  | c :: rest => if endsAt inFlow c rest.head? then [] else c :: chunk inFlow rest

/-- Read line breaks and spaces; none if a document marker follows a break. -/
def blankLines : Nat → Text → Cursor → Option (Text × Cursor)
  | 0, breaks, cursor => some (breaks, cursor)
  | fuel + 1, breaks, cursor =>
      match cursor.peek? with
      | some c =>
          if c = ' ' then
            blankLines fuel breaks cursor.advance
          else if isBreak c then
            if cursor.advance.atDocumentMarker then
              none
            else
              blankLines fuel (breaks ++ [breakValue c]) cursor.advance
          else
            some (breaks, cursor)
      | none => some (breaks, cursor)

/-- What joins two chunks, where reading goes on, and whether a line ended between. -/
structure Gap where
  /-- The value of the gap; nothing if the scalar ends before it. -/
  value : Text
  /-- The place after the gap. -/
  cursor : Cursor
  /-- A line ended in the gap. -/
  brokeLine : Bool

/-- Read the gap after a chunk of a plain scalar. -/
def gap (cursor : Cursor) : Gap :=
  let (spaces, after) := cursor.advanceWhile (· == ' ')
  match after.peek? with
  | some c =>
      if isBreak c then
        let next := after.advance
        if next.atDocumentMarker then
          ⟨[], next, true⟩
        else
          match blankLines next.unread [] next with
          | none => ⟨[], next, true⟩
          | some (breaks, last) => ⟨foldBreaks (breakValue c) breaks, last, true⟩
      else
        ⟨spaces, after, false⟩
  | none => ⟨spaces, after, false⟩

/-- Read the chunks of a plain scalar; `brokeLine` tells of the gap before the next. -/
def chunks
    (inFlow : Bool)
    (indent : Int) : Nat → Text → Text → Bool → Cursor → Text × Bool × Cursor
  | 0, value, _, brokeLine, cursor => (value, brokeLine, cursor)
  | fuel + 1, value, joint, brokeLine, cursor =>
      let part := if cursor.peek? = some '#' then [] else chunk inFlow cursor.rest
      if part.isEmpty then
        (value, brokeLine, cursor)
      else
        let space := gap (cursor.advanceBy part.length)
        let value := value ++ joint ++ part
        if space.value.isEmpty || space.cursor.peek? == some '#' ||
            (!inFlow && (space.cursor.column : Int) < indent) then
          (value, space.brokeLine, space.cursor)
        else
          chunks inFlow indent fuel value space.value space.brokeLine space.cursor

/--
Read a plain scalar: its value, whether a line ended after its last part, and the place
after it.
-/
def scan
    (inFlow : Bool)
    (indent : Int)
    (cursor : Cursor) : Text × Bool × Cursor :=
  chunks inFlow indent cursor.unread [] [] false cursor

end Plain

namespace Quoted

/-- The characters that an escape of one letter stands for. -/
def escapes : List (Char × Nat) :=
  [('0', 0x00), ('a', 0x07), ('b', 0x08), ('t', 0x09), ('\t', 0x09), ('n', 0x0a),
    ('v', 0x0b), ('f', 0x0c), ('r', 0x0d), ('e', 0x1b), (' ', 0x20), ('\x22', 0x22),
    ('\\', 0x5c), ('/', 0x2f), ('N', 0x85), ('_', 0xa0), ('L', 0x2028), ('P', 0x2029)]

/-- The number of digits of an escape by code point. -/
def codeLengths : List (Char × Nat) :=
  [('x', 2), ('u', 4), ('U', 8)]

/-- Skip spaces, tabs and line breaks after a line break, keeping the breaks. -/
def blankLines : Nat → Text → Cursor → Except Fault (Text × Cursor)
  | 0, breaks, cursor => .ok (breaks, cursor)
  | fuel + 1, breaks, cursor =>
      if cursor.column = 0 ∧ cursor.atDocumentMarker then
        .error .badToken
      else
        match cursor.peek? with
        | some c =>
            if c = ' ' ∨ c = '\t' then
              blankLines fuel breaks cursor.advance
            else if isBreak c then
              blankLines fuel (breaks ++ [breakValue c]) cursor.advance
            else
              .ok (breaks, cursor)
        | none => .ok (breaks, cursor)

/-- Read blanks inside quotes. -/
def gap (cursor : Cursor) : Except Fault (Text × Cursor) :=
  let (spaces, after) := cursor.advanceWhile fun c => c == ' ' || c == '\t'
  match after.peek? with
  | none => .error .badToken
  | some c =>
      if isBreak c then do
        let (breaks, last) ← blankLines (after.unread + 1) [] after.advance
        return (foldBreaks (breakValue c) breaks, last)
      else
        .ok (spaces, after)

/-- The number that a text starts with in some hexadecimal digits. -/
def code?
    (length : Nat)
    (text : Text) : Option Nat :=
  let digits := (text.take length).filterMap Text.hexValue?
  if digits.length < length then
    none
  else
    some (digits.foldl (fun total digit => total * 16 + digit) 0)

/--
Read an escape by code point.  One half of a character stays a half, even before the other
one, so it is in no text.
-/
def codeEscape
    (length : Nat)
    (cursor : Cursor) : Except Fault (Text × Cursor) :=
  match code? length cursor.rest with
  | none => .error .badToken
  | some code =>
      if 0x10ffff < code then
        .error .badValue
      else if Text.isHighHalf code || Text.isLowHalf code then
        .error .notCovered
      else
        .ok ([Char.ofNat code], cursor.advanceBy length)

/-- Read what follows a backslash in double quotes. -/
def escape (cursor : Cursor) : Except Fault (Text × Cursor) :=
  match cursor.peek? with
  | none => .error .badToken
  | some c =>
      match escapes.lookup c, codeLengths.lookup c with
      | some code, _ => .ok ([Char.ofNat code], cursor.advance)
      | none, some length => codeEscape length cursor.advance
      | none, none =>
          if isBreak c then
            blankLines (cursor.unread + 1) [] cursor.advance
          else
            .error .badToken

/-- Read a quoted scalar behind its opening quote. -/
def scan
    (quote : Char) : Nat → Text → Cursor → Except Fault (Text × Cursor)
  | 0, _, _ => .error .badToken
  | fuel + 1, value, cursor =>
      match cursor.peek? with
      | none => .error .badToken
      | some c =>
          if c = quote then
            if quote = '\x27' ∧ cursor.peekAt? 1 = some '\x27' then
              scan quote fuel (value ++ [c]) (cursor.advanceBy 2)
            else
              .ok (value, cursor.advance)
          else if isGap (some c) then do
            let (space, after) ← gap cursor
            scan quote fuel (value ++ space) after
          else if quote = '\x22' ∧ c = '\\' then do
            let (part, after) ← escape cursor.advance
            scan quote fuel (value ++ part) after
          else
            let (part, after) :=
              cursor.advanceWhile fun d => d != quote && !isGap (some d) && d != '\\'
            if part.isEmpty then
              scan quote fuel (value ++ [c]) cursor.advance
            else
              scan quote fuel (value ++ part) after

end Quoted
end Yaml
end LabelPress
