import LabelPress.Context
import LabelPress.Expr.Builtin
import LabelPress.Expr.Condition
import LabelPress.Expr.Fault
import LabelPress.Number.Fixed
import LabelPress.Row

/-!
# Applying functions

What each function computes from its arguments, the row and the context.  An argument
that is not given counts as empty, and further arguments are ignored except by
`CONCAT`.
-/

namespace LabelPress

/-- The text that stands for an expression without a value. -/
def errorMarker : Text := "#ERR#".toList

/-- The form of a date if none is given. -/
def defaultDatePattern : Text := "DD/MM/AAAA".toList

/-- The form of a date with time if none is given. -/
def defaultMomentPattern : Text := "DD/MM/AAAA hh:mm".toList

/-- The form of a lot code if none is given. -/
def defaultLotPattern : Text := "AAMM-####".toList

/-- Months are counted as thirty days. -/
def daysPerMonth : Int := 30

/-- The largest width that padding can be asked for. -/
def widthLimit : Int := 9223372036854775807

/-- The largest number of characters that padding can make. -/
def lengthLimit : Int := 4294967296

/-- A text, or another one if it is empty. -/
def orElse
    (text : Text)
    (substitute : Text) : Text :=
  if text.isEmpty then substitute else text

/-- The argument at a place, empty if it is not given. -/
def argumentAt
    (arguments : List Text)
    (place : Nat) : Text :=
  arguments.getD place []

namespace Builtin

/-- The beginning of a text, which is the whole text unless a length is given. -/
def applyClip (arguments : List Text) : Except EvalFault Text := do
  let value := argumentAt arguments 0
  let length ← EvalFault.liftNumeric (leadingInteger (argumentAt arguments 1) value.length)
  if length < 0 then
    .error (.negativeLength length)
  else
    return value.take length.toNat

/-- A text with every occurrence of a part replaced. -/
def applyReplace (arguments : List Text) : Text :=
  Text.replaceAll (argumentAt arguments 1) (argumentAt arguments 2) (argumentAt arguments 0)

/-- The date that a text is, or the date of rendering. -/
def dateOrToday
    (context : Context)
    (text : Text) : Date :=
  (Date.parse? text).getD context.now.date

/-- A date a number of steps of some days later. -/
def applyAddDays
    (daysPerStep : Int)
    (arguments : List Text)
    (context : Context) : Except EvalFault Text := do
  let base := dateOrToday context (argumentAt arguments 0)
  let steps ← EvalFault.liftNumeric (leadingInteger (argumentAt arguments 1) 0)
  match base.addDays? (steps * daysPerStep) with
  | none => .error (.numeric .overflow)
  | some date => return date.format (orElse (argumentAt arguments 2) defaultDatePattern)

/-- A serial number: the start plus as many steps as there are rows before. -/
def applyCounter
    (arguments : List Text)
    (context : Context) : Except EvalFault Text := do
  let start ← EvalFault.liftNumeric (leadingInteger (argumentAt arguments 0) 1)
  let step ← EvalFault.liftNumeric (leadingInteger (argumentAt arguments 1) 1)
  let width ← EvalFault.liftNumeric (leadingInteger (argumentAt arguments 2) 0)
  let numeral ← EvalFault.liftNumeric (Numeral.write (start + context.rowIndex * step))
  if widthLimit < width then
    .error (.numeric .overflow)
  else if lengthLimit < width then
    .error (.numeric .tooLong)
  else
    return Numeral.padLeft width.toNat '0' numeral

/-- The fields of a lot pattern in the order in which they are replaced. -/
def lotFields (date : Date) : List (Text × Text) :=
  [("AAAA".toList, date.yearText),
    ("AA".toList, date.shortYearText),
    ("MM".toList, Numeral.twoDigits date.month),
    ("DD".toList, Numeral.twoDigits date.day)]

/--
Replace every run of `#` by a sequence number, padded with zeros to the length of the
run.  `run` is the length of the run that the already read part ends with.
-/
def fillRuns
    (sequence : Text)
    (run : Nat) : Text → Text
  | [] => if run = 0 then [] else Numeral.padLeft run '0' sequence
  | c :: rest =>
      if c = '#' then
        fillRuns sequence (run + 1) rest
      else if run = 0 then
        c :: fillRuns sequence 0 rest
      else
        Numeral.padLeft run '0' sequence ++ c :: fillRuns sequence 0 rest

/-- A lot code: the parts of the date, and the place of the row counted from one. -/
def applyLot
    (arguments : List Text)
    (context : Context) : Except EvalFault Text := do
  let pattern := orElse (argumentAt arguments 0) defaultLotPattern
  let sequence ← EvalFault.liftNumeric (Numeral.write (context.rowIndex + 1 : Nat))
  let dated := Date.replaceFields (lotFields context.now.date) pattern
  return fillRuns sequence 0 dated

/-- A number with fixed places, none unless some are asked for. -/
def applyRound (arguments : List Text) : Except EvalFault Text := do
  let value := leadingNumber (argumentAt arguments 0)
  let places ← EvalFault.liftNumeric (leadingInteger (argumentAt arguments 1) 0)
  if places < 0 then
    .error (.negativePlaces places)
  else
    EvalFault.liftNumeric (value.fixed places.toNat)

/-- A number with fixed places and a comma as decimal mark if that is asked for. -/
def applyFormatNumber (arguments : List Text) : Except EvalFault Text := do
  let rounded ← applyRound arguments
  if argumentAt arguments 2 = [','] then
    return Text.replaceAll ['.'] [','] rounded
  else
    return rounded

/-- An operand of a condition: numbers stand for themselves, names for their columns. -/
def resolveOperand
    (row : Row)
    (operand : Text) : Except EvalFault Text :=
  if operand.isEmpty || (parseNumber? operand).isSome then
    .ok operand
  else
    EvalFault.liftNumeric ((row.column? operand).map fun text => text.getD operand)

/-- One of two texts by a condition on the row. -/
def applyChoose
    (arguments : List Text)
    (row : Row) : Except EvalFault Text := do
  let holds ← Condition.evaluateWith (resolveOperand row) (argumentAt arguments 0)
  return argumentAt arguments (if holds then 1 else 2)

/-- The text that a function computes. -/
def apply
    (builtin : Builtin)
    (arguments : List Text)
    (row : Row)
    (context : Context) : Except EvalFault Text :=
  let first := argumentAt arguments 0
  let second := argumentAt arguments 1
  match builtin with
  | .upper => .ok (Text.upper first)
  | .lower => .ok (Text.lower first)
  | .clip => applyClip arguments
  | .concat => .ok arguments.flatten
  | .replace => .ok (applyReplace arguments)
  | .length => .ok (Numeral.ofNat first.length)
  | .today => .ok (context.now.date.format (orElse first defaultDatePattern))
  | .now => .ok (context.now.date.format (orElse first defaultMomentPattern))
  | .addDays => applyAddDays 1 arguments context
  | .addMonths => applyAddDays daysPerMonth arguments context
  | .formatDate =>
      .ok ((dateOrToday context first).format (orElse second defaultDatePattern))
  | .counter => applyCounter arguments context
  | .lot => applyLot arguments context
  | .round => applyRound arguments
  | .formatNumber => applyFormatNumber arguments
  | .choose => applyChoose arguments row
  | .isEmpty => .ok (if first.isEmpty then "true".toList else "false".toList)
  | .orDefault => .ok (orElse first second)

end Builtin

/-- The text that a call by name computes; an unknown name gives the error marker. -/
def callFunction
    (name : Text)
    (arguments : List Text)
    (row : Row)
    (context : Context) : Except EvalFault Text :=
  match Builtin.ofName? name with
  | none => .ok errorMarker
  | some builtin => builtin.apply arguments row context

end LabelPress
