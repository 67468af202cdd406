import LabelPress.Text.Blank

/-!
# Issues

What is wrong with a value of a data file and where in it.  A check of a whole value
reports all of its issues, in the order in which its fields are declared.
-/

namespace LabelPress

/-- One step into a value: a field of a mapping or an item of a sequence. -/
inductive Step where
  /-- The field with a name. -/
  | field (name : Text)
  /-- The item at a place. -/
  | item (place : Nat)
deriving DecidableEq

/-- What is wrong with a value. -/
inductive Complaint where
  /-- A required field is not given. -/
  | missing
  /-- A field is not known. -/
  | extraForbidden
  /-- The value is not a text. -/
  | stringType
  /-- The text is not a number. -/
  | floatParsing
  /-- The value is not a number. -/
  | floatType
  /-- The text is not an integer. -/
  | intParsing
  /-- The text is an integer of too many digits. -/
  | intParsingSize
  /-- The value is not an integer. -/
  | intType
  /-- The number has a fraction. -/
  | intFromFloat
  /-- The number is not finite. -/
  | finiteNumber
  /-- The value is a text or number but no truth value. -/
  | boolParsing
  /-- The value is not a truth value. -/
  | boolType
  /-- The text is not a date with a time of day. -/
  | datetimeParsing
  /-- The value is not a date with a time of day. -/
  | datetimeType
  /-- The number is below its lower bound. -/
  | greaterThanEqual
  /-- The value is not a mapping of texts. -/
  | dictType
  /-- The value is not a sequence. -/
  | listType
  /-- The value is not a mapping of fields. -/
  | modelType
  /-- A field of a finished value was to be changed. -/
  | frozenInstance
deriving DecidableEq

/-- The word that reports use for a complaint. -/
def Complaint.code : Complaint → String
  | .missing => "missing"
  | .extraForbidden => "extra_forbidden"
  | .stringType => "string_type"
  | .floatParsing => "float_parsing"
  | .floatType => "float_type"
  | .intParsing => "int_parsing"
  | .intParsingSize => "int_parsing_size"
  | .intType => "int_type"
  | .intFromFloat => "int_from_float"
  | .finiteNumber => "finite_number"
  | .boolParsing => "bool_parsing"
  | .boolType => "bool_type"
  | .datetimeParsing => "datetime_from_date_parsing"
  | .datetimeType => "datetime_type"
  | .greaterThanEqual => "greater_than_equal"
  | .dictType => "dict_type"
  | .listType => "list_type"
  | .modelType => "model_type"
  | .frozenInstance => "frozen_instance"

/-- A complaint and the way from the whole value to what it is about. -/
structure Issue where
  /-- The steps from the whole value. -/
  location : List Step
  /-- What is wrong there. -/
  complaint : Complaint
deriving DecidableEq

namespace Issue

/-- The issue seen from one step further out. -/
def within
    (step : Step)
    (issue : Issue) : Issue :=
  { issue with location := step :: issue.location }

/-- The issue that arises when a field of a finished value is to be changed. -/
def ofChange (field : Text) : Issue :=
  ⟨[.field field], .frozenInstance⟩

end Issue
end LabelPress
