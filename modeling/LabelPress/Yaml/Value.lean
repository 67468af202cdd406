import LabelPress.Document.Basic
import LabelPress.Yaml.Node
import LabelPress.Yaml.Numeric
import LabelPress.Yaml.Timestamp

/-!
# Values of nodes

The document that the nodes of a YAML text stand for.  A plain scalar is a truth value, a
number, a null or a date by its form, and a text otherwise.  Of several faults the one
nearest to the root is reported, and of equally near ones the first.  A mapping with a
merge key is not covered, which shows before its entries are looked at.
-/

namespace LabelPress
namespace Yaml

namespace Plain

/-- The spellings of true. -/
def trueWords : List Text :=
  ["yes".toList, "Yes".toList, "YES".toList, "true".toList, "True".toList, "TRUE".toList,
    "on".toList, "On".toList, "ON".toList]

/-- The spellings of false. -/
def falseWords : List Text :=
  ["no".toList, "No".toList, "NO".toList, "false".toList, "False".toList, "FALSE".toList,
    "off".toList, "Off".toList, "OFF".toList]

/-- The spellings of null. -/
def nullWords : List Text :=
  [[], "~".toList, "null".toList, "Null".toList, "NULL".toList]

/-- The spellings without a value of their own: the merging of mappings and a default. -/
def reservedWords : List Text := ["<<".toList, "=".toList]

/-- The value of a plain scalar that is no number. -/
def wordOrDate (text : Text) : Except Fault Document :=
  if trueWords.contains text then
    .ok (.boolean true)
  else if falseWords.contains text then
    .ok (.boolean false)
  else if nullWords.contains text then
    .ok .null
  else if reservedWords.contains text then
    .error .unsupportedValue
  else
    match Timestamp.date? text, Timestamp.moment? text with
    | some date, _ => date.map .date
    | none, some moment => moment.map .moment
    | none, none => .ok (.text text)

/-- The value of a plain scalar. -/
def value (text : Text) : Except Fault Document :=
  match Numeric.real? text, Numeric.integer? text with
  | some number, _ => .ok (.real number)
  | none, some number => number.map .integer
  | none, none => wordOrDate text

end Plain

/-- A fault of a value and how far from the root of its document it is. -/
structure Misfit where
  /-- The number of sequences and mappings around the value. -/
  depth : Nat
  /-- The fault. -/
  fault : Fault

namespace Misfit

/-- Combine two values, or report the fault nearer to the root, the first of equal ones. -/
def both
    {α β γ : Type}
    (combine : α → β → γ)
    (first : Except Misfit α)
    (second : Except Misfit β) : Except Misfit γ :=
  match first, second with
  | .ok a, .ok b => .ok (combine a b)
  | .ok _, .error misfit => .error misfit
  | .error misfit, .ok _ => .error misfit
  | .error misfit, .error other => .error (if other.depth < misfit.depth then other else misfit)

end Misfit

namespace Node

/-- The node is the key that merges other mappings into its own. -/
def isMergeKey : Node → Bool
  | .scalar text plain => plain && text == "<<".toList
  | _ => false

/-- The value of a scalar as a key, where an equals sign is a text. -/
def keyValue
    (text : Text)
    (plain : Bool) : Except Fault Document :=
  if plain ∧ text ≠ ['='] then Plain.value text else .ok (.text text)

/-- The key that a node is; a sequence or a mapping is none. -/
def key
    (depth : Nat) : Node → Except Misfit Document
  | .scalar text plain => (keyValue text plain).mapError (Misfit.mk depth)
  | _ => .error ⟨depth, .unsupportedValue⟩

mutual

/-- The value of a node. -/
def value
    (depth : Nat) : Node → Except Misfit Document
  | .scalar text plain =>
      if plain then (Plain.value text).mapError (Misfit.mk depth) else .ok (.text text)
  | .sequence items => (values (depth + 1) items).map .sequence
  | .mapping entries =>
      if entries.any fun entry => entry.1.isMergeKey then
        .error ⟨depth + 1, .notCovered⟩
      else
        (entryValues (depth + 1) entries).map Document.ofEntries

/-- The values of the items of a sequence. -/
def values
    (depth : Nat) : List Node → Except Misfit (List Document)
  | [] => .ok []
  | item :: others => Misfit.both List.cons (item.value depth) (values depth others)

/-- The keys and values of the entries of a mapping. -/
def entryValues
    (depth : Nat) : List (Node × Node) → Except Misfit Document.Entries
  | [] => .ok []
  | (key, value) :: others =>
      Misfit.both List.cons
        (Misfit.both Prod.mk (key.key depth) (value.value depth))
        (entryValues depth others)

end

end Node
end Yaml

/-- The document that a YAML text holds; a text without a document holds null. -/
def Document.ofYaml (text : Text) : Except Yaml.Fault Document := do
  match ← Yaml.Node.ofTokens (Yaml.Token.scan text) with
  | none => return .null
  | some node => (node.value 0).mapError Yaml.Misfit.fault

/--
A reader of YAML.  What is loaded from files depends on the reader through the document or
the fault of each text alone, so all that is proved of loading holds for readers of the
whole of YAML as well.
-/
class Yaml.Reader where
  /-- The document that a text holds. -/
  read : Text → Except Yaml.Fault Document

/-- The reader of these modules. -/
instance : Yaml.Reader :=
  ⟨Document.ofYaml⟩

end LabelPress
