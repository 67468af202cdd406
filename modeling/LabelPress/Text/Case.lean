import LabelPress.Text.CaseTable

/-!
# Upper and lower case

Full case mapping: a character may map to several, and a capital sigma at the end of
a word maps to the final small sigma.
-/

namespace LabelPress
namespace Text

/-- The image of a code point under the first run that holds it. -/
def CaseRun.apply?
    (runs : List CaseRun)
    (code : Nat) : Option Nat :=
  (runs.find? fun run =>
    run.first ≤ code && code ≤ run.last && (code - run.first) % run.step == 0).map
      fun run => run.image + (code - run.first)

/-- Map a character beyond ASCII by a table of expansions and a table of runs. -/
def mapCase
    (expansions : List (Nat × List Nat))
    (runs : List CaseRun)
    (c : Char) : Text :=
  match expansions.lookup c.toNat with
  | some images => images.map Char.ofNat
  | none =>
      match CaseRun.apply? runs c.toNat with
      | some image => [Char.ofNat image]
      | none => [c]

/-- The upper case of one character. -/
def upperChar (c : Char) : Text :=
  if c.toNat < 128 then [c.toUpper] else mapCase upperExpansions upperRuns c

/-- The lower case of one character outside any context. -/
def lowerChar (c : Char) : Text :=
  if c.toNat < 128 then [c.toLower] else mapCase lowerExpansions lowerRuns c

/-- The upper case of a text. -/
def upper (text : Text) : Text :=
  text.flatMap upperChar

/-- A cased character that a case context does not skip. -/
def isCased (c : Char) : Bool :=
  inRanges casedRanges c

/-- A character that a case context skips. -/
def isCaseIgnorable (c : Char) : Bool :=
  inRanges caseIgnorableRanges c

/-- The nearest character that a case context does not skip is cased. -/
def nextIsCased (text : Text) : Bool :=
  match text.dropWhile isCaseIgnorable with
  | [] => false
  | c :: _ => isCased c

/--
The lower case of a text whose already read part is `before`, nearest character
first.  A capital sigma ends a word when a cased character comes before it and none
comes after it.
-/
def lowerAfter (before : Text) : Text → Text
  | [] => []
  | c :: rest =>
      let image :=
        if c.toNat = 0x3a3 then
          if nextIsCased before && !nextIsCased rest then
            [Char.ofNat 0x3c2]
          else
            [Char.ofNat 0x3c3]
        else
          lowerChar c
      image ++ lowerAfter (c :: before) rest

/-- The lower case of a text. -/
def lower (text : Text) : Text :=
  lowerAfter [] text

end Text
end LabelPress
