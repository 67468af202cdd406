import LabelPress.Yaml.Scalar

/-!
# Tokens

The tokens of a YAML text.  Indentation becomes tokens that open and close blocks, and a
scalar or bracket becomes a key when a colon follows it on its line.  Such a candidate is
marked when it is read and turned into tokens at the end, so marks are only ever added.
A text that cannot be read to its end yields the tokens before the fault and the fault.
Anchors, aliases, tags, block scalars and directives end reading where they start.
-/

namespace LabelPress
namespace Yaml

/-- A token of a YAML text. -/
inductive Token where
  /-- The start of a sequence by indentation. -/
  | blockSequence
  /-- The start of a mapping by indentation. -/
  | blockMapping
  /-- The end of either. -/
  | blockEnd
  /-- An opening bracket. -/
  | flowSequence
  /-- A closing bracket. -/
  | flowSequenceEnd
  /-- An opening brace. -/
  | flowMapping
  /-- A closing brace. -/
  | flowMappingEnd
  /-- A dash before an item. -/
  | blockEntry
  /-- A comma between items. -/
  | flowEntry
  /-- The start of a key. -/
  | key
  /-- A colon before a value. -/
  | value
  /-- A scalar; a plain one is not quoted. -/
  | scalar (text : Text) (plain : Bool)
  /-- The marker before a document. -/
  | documentStart
  /-- The marker after a document. -/
  | documentEnd
  /-- The end of the text. -/
  | streamEnd
  /-- The place of a fault. -/
  | broken (fault : Fault)
deriving DecidableEq

/-- A token, or a place where a key may turn out to start. -/
inductive Mark where
  /-- A token. -/
  | token (token : Token)
  /-- A possible start of a key, by its number. -/
  | candidate (number : Nat)

/-- A place where a key may start. -/
structure Candidate where
  /-- The number of its mark. -/
  number : Nat
  /-- Nothing but a key can stand there. -/
  required : Bool
  /-- The place in the text. -/
  index : Nat
  /-- The line of the place. -/
  line : Nat
  /-- The column of the place. -/
  column : Nat

/-- What a candidate that is a key becomes. -/
structure Resolution where
  /-- The number of its mark. -/
  number : Nat
  /-- The key is the first one of a mapping by indentation. -/
  opensMapping : Bool

/-- The tokens that a key starts with. -/
def Resolution.tokens (resolution : Resolution) : List Token :=
  if resolution.opensMapping then [.blockMapping, .key] else [.key]

/-- The state of reading tokens. -/
structure Scanner where
  /-- The unread text. -/
  cursor : Cursor
  /-- The marks, the last one first. -/
  marks : List Mark
  /-- The number of candidates so far. -/
  candidateCount : Nat
  /-- The candidates that are keys. -/
  resolutions : List Resolution
  /-- The open candidate of each depth of brackets. -/
  candidates : List (Int × Candidate)
  /-- The depth of brackets. -/
  flowLevel : Int
  /-- The indentation of the current block. -/
  indent : Int
  /-- The indentations of the blocks around it. -/
  indents : List Int
  /-- A key may start here. -/
  keyAllowed : Bool

namespace Scanner

/-- The state before the first token. -/
def start (text : Text) : Scanner :=
  ⟨Cursor.start text, [], 0, [], [], 0, -1, [], true⟩

/-- Reading is inside brackets. -/
def inFlow (scanner : Scanner) : Bool :=
  scanner.flowLevel != 0

/-- Add a token. -/
def push
    (scanner : Scanner)
    (token : Token) : Scanner :=
  { scanner with marks := .token token :: scanner.marks }

/-- Read some characters. -/
def skip
    (scanner : Scanner)
    (count : Nat) : Scanner :=
  { scanner with cursor := scanner.cursor.advanceBy count }

/-- Skip spaces, comments and line breaks. -/
def skipBlanks : Nat → Bool → Scanner → Scanner
  | 0, _, scanner => scanner
  | fuel + 1, inComment, scanner =>
      match scanner.cursor.peek? with
      | none => scanner
      | some c =>
          let next := scanner.skip 1
          if isBreak c then
            skipBlanks fuel false
              { next with keyAllowed := scanner.keyAllowed || !scanner.inFlow }
          else if inComment || c == ' ' then
            skipBlanks fuel inComment next
          else if c = '#' then
            skipBlanks fuel true next
          else
            scanner

/-- A candidate is stale on another line or too far away. -/
def isStale
    (scanner : Scanner)
    (candidate : Candidate) : Bool :=
  candidate.line != scanner.cursor.line || 1024 < scanner.cursor.index - candidate.index

/-- Drop the stale candidates, which is a fault if one of them had to be a key. -/
def dropStale (scanner : Scanner) : Except Fault Scanner :=
  if scanner.candidates.any fun entry => scanner.isStale entry.2 && entry.2.required then
    .error .badToken
  else
    .ok
      { scanner with
        candidates := scanner.candidates.filter fun entry => !scanner.isStale entry.2 }

/-- The open candidate of the current depth. -/
def candidate? (scanner : Scanner) : Option Candidate :=
  scanner.candidates.lookup scanner.flowLevel

/-- Forget the open candidate of the current depth. -/
def forget (scanner : Scanner) : Scanner :=
  { scanner with
    candidates := scanner.candidates.filter fun entry => entry.1 != scanner.flowLevel }

/-- Drop the open candidate of the current depth unless it has to be a key. -/
def dropCandidate (scanner : Scanner) : Except Fault Scanner :=
  match scanner.candidate? with
  | some candidate => if candidate.required then .error .badToken else .ok scanner.forget
  | none => .ok scanner

/-- Mark the current place as a candidate if a key may start there. -/
def markCandidate (scanner : Scanner) : Except Fault Scanner :=
  if scanner.keyAllowed then do
    let scanner ← scanner.dropCandidate
    let candidate : Candidate :=
      { number := scanner.candidateCount
        required := !scanner.inFlow && scanner.indent == scanner.cursor.column
        index := scanner.cursor.index
        line := scanner.cursor.line
        column := scanner.cursor.column }
    return { scanner with
      marks := .candidate scanner.candidateCount :: scanner.marks
      candidateCount := scanner.candidateCount + 1
      candidates := (scanner.flowLevel, candidate) :: scanner.candidates }
  else
    .ok scanner

/-- Close the blocks that are indented more than a column. -/
def unwindTo
    (column : Int) : List Int → Scanner → Scanner
  | [], scanner => scanner
  | outer :: others, scanner =>
      if column < scanner.indent then
        unwindTo column others
          { scanner.push .blockEnd with indent := outer, indents := others }
      else
        scanner

/-- Close the blocks that are indented more than a column, outside brackets. -/
def unwind
    (scanner : Scanner)
    (column : Int) : Scanner :=
  if scanner.inFlow then scanner else unwindTo column scanner.indents scanner

/-- Make a column the indentation of a new block if it is deeper than the current one. -/
def indentTo
    (scanner : Scanner)
    (column : Int) : Bool × Scanner :=
  if scanner.indent < column then
    (true, { scanner with indent := column, indents := scanner.indent :: scanner.indents })
  else
    (false, scanner)

/-- Open a block at the current column if it is deeper than the current block. -/
def openBlock
    (scanner : Scanner)
    (token : Token) : Scanner :=
  let (opened, scanner) := scanner.indentTo scanner.cursor.column
  if opened then scanner.push token else scanner

/-- Read the end of the text. -/
def readEnd (scanner : Scanner) : Except Fault Scanner := do
  let scanner ← (scanner.unwind (-1)).dropCandidate
  return scanner.push .streamEnd

/-- Read a document marker. -/
def readMarker
    (scanner : Scanner)
    (token : Token) : Except Fault Scanner := do
  let scanner ← (scanner.unwind (-1)).dropCandidate
  return ({ scanner with keyAllowed := false }.push token).skip 3

/-- Read an opening bracket. -/
def readOpening
    (scanner : Scanner)
    (token : Token) : Except Fault Scanner := do
  let scanner ← scanner.markCandidate
  return ({ scanner with flowLevel := scanner.flowLevel + 1, keyAllowed := true }.push
    token).skip 1

/-- Read a closing bracket. -/
def readClosing
    (scanner : Scanner)
    (token : Token) : Except Fault Scanner := do
  let scanner ← scanner.dropCandidate
  return ({ scanner with flowLevel := scanner.flowLevel - 1, keyAllowed := false }.push
    token).skip 1

/-- Read a comma. -/
def readComma (scanner : Scanner) : Except Fault Scanner := do
  let scanner ← { scanner with keyAllowed := true }.dropCandidate
  return (scanner.push .flowEntry).skip 1

/-- Read a dash before an item or a question mark before a key. -/
def readIndicator
    (scanner : Scanner)
    (block token : Token)
    (allowed : Bool) : Except Fault Scanner :=
  if !scanner.inFlow && !scanner.keyAllowed then
    .error .badToken
  else do
    let scanner := if scanner.inFlow then scanner else scanner.openBlock block
    let scanner ← { scanner with keyAllowed := allowed }.dropCandidate
    return (scanner.push token).skip 1

/-- Turn the open candidate into a key, which may open a mapping. -/
def resolve
    (scanner : Scanner)
    (candidate : Candidate) : Scanner :=
  let scanner := scanner.forget
  let (opened, scanner) :=
    if scanner.inFlow then (false, scanner) else scanner.indentTo candidate.column
  { scanner with
    keyAllowed := false
    resolutions := ⟨candidate.number, opened⟩ :: scanner.resolutions }

/-- Read a colon before a value. -/
def readColon (scanner : Scanner) : Except Fault Scanner :=
  match scanner.candidate? with
  | some candidate => .ok (((scanner.resolve candidate).push .value).skip 1)
  | none =>
      if !scanner.inFlow && !scanner.keyAllowed then
        .error .badToken
      else
        let scanner := if scanner.inFlow then scanner else scanner.openBlock .blockMapping
        .ok (({ scanner with keyAllowed := !scanner.inFlow }.push .value).skip 1)

/-- Read a quoted scalar. -/
def readQuoted
    (scanner : Scanner)
    (quote : Char) : Except Fault Scanner := do
  let scanner ← scanner.markCandidate
  let (text, cursor) ←
    Quoted.scan quote (scanner.cursor.unread + 1) [] scanner.cursor.advance
  return { scanner with keyAllowed := false, cursor := cursor }.push (.scalar text false)

/-- Read a plain scalar. -/
def readPlain (scanner : Scanner) : Except Fault Scanner := do
  let scanner ← scanner.markCandidate
  let (text, brokeLine, cursor) :=
    Plain.scan scanner.inFlow (scanner.indent + 1) scanner.cursor
  return { scanner with keyAllowed := brokeLine, cursor := cursor }.push (.scalar text true)

/-- Characters that cannot start a plain scalar. -/
def indicators : List Char :=
  ['-', '?', ':', ',', '[', ']', '\x7b', '\x7d', '#', '&', '*', '!', '|', '>', '\x27',
    '\x22', '%', '@', '\x60']

/-- A plain scalar starts at the cursor. -/
def startsPlain
    (scanner : Scanner)
    (c : Char) : Bool :=
  (!isGap (some c) && !indicators.contains c) ||
    (!isGap (scanner.cursor.peekAt? 1) &&
      (c == '-' || (!scanner.inFlow && (c == '?' || c == ':'))))

/-- The token that starts with a character is not covered: `%` starts a directive. -/
def startsUncovered
    (scanner : Scanner)
    (c : Char) : Bool :=
  ['&', '*', '!'].contains c || (c == '%' && scanner.cursor.column == 0) ||
    (!scanner.inFlow && (c == '|' || c == '>'))

/-- Read the token that starts with a character. -/
def readToken
    (scanner : Scanner)
    (c : Char) : Except Fault Scanner :=
  let gapFollows := isGap (scanner.cursor.peekAt? 1)
  let atLineStart := scanner.cursor.column == 0
  if atLineStart && scanner.cursor.atMarker "---".toList then
    scanner.readMarker .documentStart
  else if atLineStart && scanner.cursor.atMarker "...".toList then
    scanner.readMarker .documentEnd
  else if c = '[' then
    scanner.readOpening .flowSequence
  else if c = '\x7b' then
    scanner.readOpening .flowMapping
  else if c = ']' then
    scanner.readClosing .flowSequenceEnd
  else if c = '\x7d' then
    scanner.readClosing .flowMappingEnd
  else if c = ',' then
    scanner.readComma
  else if c = '-' && gapFollows then
    scanner.readIndicator .blockSequence .blockEntry true
  else if c = '?' && (scanner.inFlow || gapFollows) then
    scanner.readIndicator .blockMapping .key (!scanner.inFlow)
  else if c = ':' && (scanner.inFlow || gapFollows) then
    scanner.readColon
  else if c = '\x27' || c = '\x22' then
    scanner.readQuoted c
  else if scanner.startsPlain c then
    scanner.readPlain
  else if scanner.startsUncovered c then
    .error .notCovered
  else
    .error .badToken

/-- Read blanks and one token. -/
def step (scanner : Scanner) : Except Fault Scanner := do
  let scanner ← (skipBlanks scanner.cursor.unread false scanner).dropStale
  let scanner := scanner.unwind scanner.cursor.column
  match scanner.cursor.peek? with
  | none => scanner.readEnd
  | some c => scanner.readToken c

/-- The last mark is the end of the text. -/
def isFinished (scanner : Scanner) : Bool :=
  match scanner.marks with
  | .token .streamEnd :: _ => true
  | _ => false

/-- The marks before the first one that an open candidate still holds back. -/
def settledMarks (scanner : Scanner) : List Mark :=
  let waiting :=
    (scanner.candidates.filter fun entry => !scanner.isStale entry.2).map (·.2.number)
  match waiting.min? with
  | none => scanner.marks
  | some first =>
      scanner.marks.dropWhile fun mark =>
        match mark with
        | .candidate number => number != first
        | .token _ => true

/-- Put a fault after the marks that do not wait for later text. -/
def fail
    (scanner : Scanner)
    (fault : Fault) : Scanner :=
  { scanner with marks := scanner.settledMarks }.push (.broken fault)

/-- Read all tokens; a fault becomes the last one. -/
def run : Nat → Scanner → Scanner
  | 0, scanner => scanner.fail .badToken
  | fuel + 1, scanner =>
      match scanner.step with
      | .error fault => scanner.fail fault
      | .ok next => if next.isFinished then next else run fuel next

/--
The tokens that marks stand for.  The candidates are numbered in their order, so the
resolutions in that order are used up from the front.
-/
def linearize : List Resolution → List Mark → List Token
  | _, [] => []
  | resolutions, .token token :: marks => token :: linearize resolutions marks
  | [], .candidate _ :: marks => linearize [] marks
  | resolution :: others, .candidate number :: marks =>
      if resolution.number = number then
        resolution.tokens ++ linearize others marks
      else
        linearize (resolution :: others) marks

/-- The tokens read so far. -/
def tokens (scanner : Scanner) : List Token :=
  linearize (scanner.resolutions.mergeSort fun a b => a.number ≤ b.number)
    scanner.marks.reverse

end Scanner

/-- The tokens of a text. -/
def Token.scan (text : Text) : List Token :=
  if text.all isPrintable then
    let body := if text.head? = some '\ufeff' then text.tail else text
    (Scanner.run (body.length + 1) (Scanner.start body)).tokens
  else
    [.broken .unprintable]

end Yaml
end LabelPress
