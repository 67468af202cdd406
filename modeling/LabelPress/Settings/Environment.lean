import LabelPress.Document.Json
import LabelPress.Settings.Basic
import LabelPress.Settings.Fault
import LabelPress.Text.Case

/-!
# Settings from the environment

An environment variable sets one section, whose fields it holds as JSON, or one field of
one section.  Its name is a fixed beginning, the section and the field, with two
underscores between them and in any case.  A variable of a field wins over one of a
section, and what the caller gives wins over the environment, field by field.
-/

namespace LabelPress

/-- The names and values of environment variables, the oldest one first. -/
abbrev Environment := List (Text × Text)

namespace Environment

/-- Remove a variable. -/
def remove
    (environment : Environment)
    (name : Text) : Environment :=
  environment.filter fun entry => entry.1 ≠ name

/-- Set a variable; a known one keeps its place. -/
def set
    (environment : Environment)
    (name : Text)
    (value : Text) : Environment :=
  if environment.any (·.1 == name) then
    environment.map fun entry =>
      if entry.1 = name then (name, value) else entry
  else
    environment ++ [(name, value)]

/-- The variables under their names in lower case, the last one of a name. -/
def folded (environment : Environment) : Environment :=
  environment.foldl (fun known entry => known.set (Text.lower entry.1) entry.2) []

/-- Cut a name at every pair of underscores. -/
def nameParts : Text → List Text
  | '_' :: '_' :: rest => [] :: nameParts rest
  | c :: rest =>
      match nameParts rest with
      | [] => [[c]]
      | first :: others => (c :: first) :: others
  | [] => [[]]

/-- The name of the variable of a section. -/
def sectionVariable (name : Text) : Text :=
  "label_engine_".toList ++ name

/-- Put a text under a way of names into nested mappings; a text on the way stays. -/
def putNested
    (value : Text) : List Text → Document.Entries → Document.Entries
  | [], entries => entries
  | [last], entries => Document.put entries (.text last) (.text value)
  | name :: others, entries =>
      match Document.get? entries name with
      | none => Document.put entries (.text name) (.mapping (putNested value others []))
      | some (.mapping inner) =>
          Document.put entries (.text name) (.mapping (putNested value others inner))
      | some _ => entries

/-- The fields of a section that have variables of their own. -/
def sectionFields
    (environment : Environment)
    (name : Text) : Document.Entries :=
  let beginning := sectionVariable name ++ "__".toList
  environment.folded.foldl
    (fun fields entry =>
      if beginning.isPrefixOf entry.1 then
        putNested entry.2 (nameParts (entry.1.drop beginning.length)) fields
      else
        fields)
    []

end Environment

namespace Document

mutual

/-- A value over another one: mappings are merged, and any other value replaces it. -/
def mergedOver
    (base : Option Document) : Document → Document
  | .mapping entries =>
      match base with
      | some (.mapping known) => .mapping (putAllOver known entries)
      | _ => .mapping entries
  | other => other

/-- Put entries over those of a mapping. -/
def putAllOver
    (known : Entries) : Entries → Entries
  | [] => known
  | (key, value) :: others =>
      let base := (known.find? fun entry => entry.1.sameKey key).map Prod.snd
      putAllOver (put known key (value.mergedOver base)) others

end

end Document

namespace Environment

/-- The name of a field that differs from a given one at most in case. -/
def fieldName
    (fields : List Text)
    (name : Document) : Document :=
  match name with
  | .text text => .text ((fields.find? fun field => field == Text.lower text).getD text)
  | other => other

/-- The entries of a mapping under the proper names of their fields. -/
def withFieldNames
    (fields : List Text)
    (entries : Document.Entries) : Document.Entries :=
  entries.foldl
    (fun known entry => Document.put known (fieldName fields entry.1) entry.2) []

/-- What the environment says about a section, if anything. -/
def section?
    (environment : Environment)
    (name : Text)
    (fields : List Text) : Except SettingsFault (Option Document) :=
  let own := environment.sectionFields name
  match environment.folded.lookup (sectionVariable name) with
  | none => .ok (if own.isEmpty then none else some (.mapping (withFieldNames fields own)))
  | some text =>
      match Document.ofJson? text with
      | none => .error .badVariable
      | some .null => .ok none
      | some (.mapping entries) =>
          .ok (some (.mapping (withFieldNames fields (Document.putAllOver entries own))))
      | some other => .ok (some other)

/-- The sections that the environment sets. -/
def sections (environment : Environment) : Except SettingsFault Document.Entries := do
  let found ← Settings.layout.mapM fun entry => do
    return (← environment.section? entry.1 entry.2).map fun value =>
      (Document.text entry.1, value)
  return found.filterMap id

end Environment

/-- The settings with the sections of a mapping over those of the environment. -/
def Settings.inEnvironment
    (environment : Environment)
    (entries : Document.Entries) : Except SettingsFault Settings := do
  let sections ← environment.sections
  (Settings.ofEntries (Document.putAllOver sections entries)).mapError .issues

end LabelPress
