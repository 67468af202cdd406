import LabelPress.Schema.Scalar

/-!
# Arguments

The command line takes a design and up to three options with a value each.  The long
name of an option can be cut short and can hold its value behind an equals sign, and two
dashes alone turn everything after them into plain words.
-/

namespace LabelPress
namespace CommandLine

/-- An option. -/
inductive Switch where
  /-- Show the usage. -/
  | help
  /-- The file of rows. -/
  | rows
  /-- The resolution. -/
  | dpi
  /-- The file to write. -/
  | out
deriving DecidableEq

/-- The long names of the options. -/
def longNames : List (Text × Switch) :=
  [("--help".toList, .help), ("--rows".toList, .rows), ("--dpi".toList, .dpi),
    ("--out".toList, .out)]

/-- The one short name. -/
def shortHelp : Text := "-h".toList

/-- Why a command line is not run. -/
inductive Ending where
  /-- The usage was asked for. -/
  | help
  /-- The arguments are wrong. -/
  | misuse
deriving DecidableEq

/-- The exit code of a command line that is not run. -/
def Ending.code : Ending → Nat
  | .help => 0
  | .misuse => 2

/-- How a command line is written. -/
def usage : Text :=
  "usage: labelpress [-h] [--rows ROWS] [--dpi DPI] [--out OUT] design\n".toList

/-- One argument by its form. -/
inductive Word where
  /-- The design or the value of an option. -/
  | plain (text : Text)
  /-- Two dashes alone. -/
  | divider
  /-- An option, possibly with its value. -/
  | switch (switch : Switch) (value : Option Text)
  /-- The short name with letters behind it. -/
  | letters (text : Text)
  /-- An option that does not exist. -/
  | unknown

/-- A negative number, which is a plain word in spite of its dash. -/
def isNegativeNumber (text : Text) : Bool :=
  match text with
  | '-' :: number =>
      let whole := number.takeWhile Text.isDigit
      match number.drop whole.length with
      | [] => !whole.isEmpty
      | '.' :: places => !places.isEmpty && places.all Text.isDigit
      | _ => false
  | _ => false

/-- The name of an option and its value, cut at the first equals sign. -/
def cutValue (text : Text) : Text × Option Text :=
  match Text.splitOnce? ['='] text with
  | some (name, value) => (name, some value)
  | none => (text, none)

/-- A word with dashes that names no option exactly. -/
def Word.ofUnnamed (text : Text) : Word :=
  if isNegativeNumber text || text.any (· == ' ') then .plain text else .unknown

/-- A word that starts with two dashes. -/
def Word.ofLong (text : Text) : Except Ending Word :=
  let (name, value) := cutValue text
  match longNames.lookup name with
  | some found => .ok (.switch found value)
  | none =>
      match longNames.filter fun entry => name.isPrefixOf entry.1 with
      | [] => .ok (.ofUnnamed text)
      | [(_, found)] => .ok (.switch found value)
      | _ => .error .misuse

/-- A word that starts with one dash. -/
def Word.ofShort (text : Text) : Word :=
  let (name, value) := cutValue text
  if text.length = 1 then
    .plain text
  else if name = shortHelp then
    match value with
    | none => .switch .help none
    | some tail => .letters tail
  else if shortHelp.isPrefixOf text then
    .letters (text.drop shortHelp.length)
  else
    .ofUnnamed text

/-- An argument by its form. -/
def Word.ofText (text : Text) : Except Ending Word :=
  match text with
  | '-' :: '-' :: _ => Word.ofLong text
  | '-' :: _ => .ok (.ofShort text)
  | _ => .ok (.plain text)

/-- The words of a command line. -/
def wordsOf : List Text → Except Ending (List Word)
  | [] => .ok []
  | text :: others =>
      if text = "--".toList then
        .ok (.divider :: others.map .plain)
      else do
        let word ← Word.ofText text
        return word :: (← wordsOf others)

/-- What a command line asks for. -/
structure Arguments where
  /-- The path of the design. -/
  design : Text
  /-- The path of the rows, empty for a single label without data. -/
  rows : Text
  /-- The resolution, zero for the one of the settings. -/
  dpi : Int
  /-- The path of the file to write, empty for the standard output. -/
  out : Text
deriving DecidableEq

/-- The arguments that are read so far. -/
structure Draft where
  /-- The path of the design. -/
  design : Option Text
  /-- The path of the rows. -/
  rows : Text
  /-- The resolution. -/
  dpi : Int
  /-- The path of the file to write. -/
  out : Text
  /-- There are words that mean nothing. -/
  extra : Bool

/-- The integer that a text between blanks is. -/
def parseInteger? (text : Text) : Option Int := do
  let signed := NumberLiteral.scanSign (Text.trim text)
  let digits ← Check.dropUnderscores? signed.2
  if digits = [] ∨ digits.any (!Text.isDigit ·) then
    none
  else
    match Numeral.read signed.1 (Text.digitValues digits) with
    | .ok value => some value
    | .error _ => none

namespace Draft

/-- Nothing but the defaults. -/
def start : Draft :=
  ⟨none, [], 0, [], false⟩

/-- Set the value of an option. -/
def set
    (draft : Draft)
    (switch : Switch)
    (value : Text) : Except Ending Draft :=
  match switch with
  | .help => .error .misuse
  | .rows => .ok { draft with rows := value }
  | .out => .ok { draft with out := value }
  | .dpi =>
      match parseInteger? value with
      | some dpi => .ok { draft with dpi := dpi }
      | none => .error .misuse

/-- Read a plain word: the first one is the design. -/
def takePlain
    (draft : Draft)
    (text : Text) : Draft :=
  match draft.design with
  | none => { draft with design := some text }
  | some _ => { draft with extra := true }

/-- Read the words of a command line in order. -/
def read : Draft → List Word → Except Ending Draft
  | draft, [] => .ok draft
  | draft, .plain text :: .divider :: others => (draft.takePlain text).read others
  | draft, .plain text :: others => (draft.takePlain text).read others
  | draft, .divider :: .plain text :: others => (draft.takePlain text).read others
  | draft, .divider :: others => { draft with extra := true }.read others
  | draft, .unknown :: others => { draft with extra := true }.read others
  | _, .letters text :: _ =>
      if text ≠ [] ∧ text.all (· == 'h') then .error .help else .error .misuse
  | _, .switch .help none :: _ => .error .help
  | draft, .switch switch (some value) :: others => do
      (← draft.set switch value).read others
  | draft, .switch switch none :: .plain value :: others => do
      (← draft.set switch value).read others
  | _, .switch _ none :: _ => .error .misuse

end Draft

/-- What a command line asks for, unless it is not to be run. -/
def Arguments.parse (texts : List Text) : Except Ending Arguments := do
  let draft ← Draft.start.read (← wordsOf texts)
  match draft.design with
  | some design =>
      if draft.extra then
        .error .misuse
      else
        .ok ⟨design, draft.rows, draft.dpi, draft.out⟩
  | none => .error .misuse

end CommandLine
end LabelPress
