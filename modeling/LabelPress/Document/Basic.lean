import LabelPress.Number.Number
import LabelPress.Row

/-!
# Documents

The values that a data file holds: scalars, sequences and mappings.  Mappings keep the
order of their entries, and a repeated key keeps its place and takes the last value.
-/

namespace LabelPress

/-- A value of a data file. -/
inductive Document where
  /-- No value. -/
  | null
  /-- A truth value. -/
  | boolean (value : Bool)
  /-- A whole number. -/
  | integer (value : Int)
  /-- A double precision number. -/
  | real (value : Double)
  /-- A text. -/
  | text (value : Text)
  /-- A date. -/
  | date (value : Date)
  /-- A date with a time of day. -/
  | moment (value : Moment)
  /-- Values in order. -/
  | sequence (items : List Document)
  /-- Values under keys, in the order of the keys. -/
  | mapping (entries : List (Document × Document))

namespace Document

/-- The entries of a mapping. -/
abbrev Entries := List (Document × Document)

/-- The number that a value is; truth values are none. -/
def number? : Document → Option Number
  | .integer value => some (.integer value)
  | .real value => some (.real value)
  | _ => none

/-- The number that a value is as a key, where truth values count as zero and one. -/
def keyNumber? : Document → Option Number
  | .boolean value => some (.integer value.toNat)
  | other => other.number?

/-- A sequence or a mapping cannot be a key. -/
def canBeKey : Document → Bool
  | .sequence _ => false
  | .mapping _ => false
  | _ => true

/-- Two keys name the same entry: equal texts, dates or nulls, or equal numbers. -/
def sameKey (left right : Document) : Bool :=
  match left, right with
  | .null, .null => true
  | .text a, .text b => a == b
  | .date a, .date b => a == b
  | .moment a, .moment b => a == b
  | _, _ =>
      match left.keyNumber?, right.keyNumber? with
      | some a, some b => a.equals b
      | _, _ => false

/-- Put a value under a key: a known key keeps its place and takes the new value. -/
def put
    (entries : Entries)
    (key : Document)
    (value : Document) : Entries :=
  if entries.any fun entry => entry.1.sameKey key then
    entries.map fun entry => if entry.1.sameKey key then (entry.1, value) else entry
  else
    entries ++ [(key, value)]

/-- The mapping that a list of entries with possibly repeated keys makes. -/
def ofEntries (entries : Entries) : Document :=
  .mapping (entries.foldl (fun known entry => put known entry.1 entry.2) [])

/-- The value under a name. -/
def get?
    (entries : Entries)
    (name : Text) : Option Document :=
  (entries.find? fun entry => entry.1.sameKey (.text name)).map Prod.snd

/-- Null, false, zero, and empty texts, sequences and mappings count as empty. -/
def isEmpty : Document → Bool
  | .null => true
  | .boolean value => !value
  | .integer value => value == 0
  | .real value => value.isZero
  | .text value => value.isEmpty
  | .date _ => false
  | .moment _ => false
  | .sequence items => items.isEmpty
  | .mapping entries => entries.isEmpty

/-- Every key of a mapping is a text. -/
def hasTextKeys (entries : Entries) : Bool :=
  entries.all fun entry =>
    match entry.1 with
    | .text _ => true
    | _ => false

end Document
end LabelPress
