import LabelPress.Design.Basic
import LabelPress.Document.Represent
import LabelPress.Workspace.FileTree
import LabelPress.Yaml.Value

/-!
# Loading designs and rows

A design file holds the fields of a design, or a mapping with them under one name.  A
file of rows holds a sequence of mappings, whose keys are written as texts.  Only faults of
YAML are reported as faults of the file; a reader can fail in other ways as well.
-/

namespace LabelPress

/-- Why a design or rows could not be loaded. -/
inductive LoadFault where
  /-- There is no file. -/
  | missing (path : Path)
  /-- The text of the file is no document. -/
  | unreadable (path : Path)
  /-- The document is no mapping. -/
  | notDesign (path : Path)
  /-- The fields are not those of a design. -/
  | invalidDesign (path : Path) (issues : List Issue)
  /-- The document is no sequence of mappings. -/
  | notRows (path : Path)
  /-- A folder is at the end of the path, or nothing can be looked for there. -/
  | file (fault : FileFault)
  /-- The reader failed, and not by a fault of YAML. -/
  | reader (fault : Yaml.Fault)
  /-- A field of a design has a name that is not a text. -/
  | nameNotText
  /-- A key of a row is a number that cannot be written. -/
  | key (fault : NumericFault)

namespace LoadFault

/--
The message of a fault that is reported to the user, up to the words of the reader or of
the check of the fields.
-/
def message? : LoadFault → Option Text
  | .missing path => some ("文件不存在: ".toList ++ path.text)
  | .unreadable path => some ("文件解析失败: ".toList ++ path.text)
  | .notDesign path => some ("设计文件结构错误（应为映射）: ".toList ++ path.text)
  | .invalidDesign path _ => some ("设计文件校验失败: ".toList ++ path.text)
  | .notRows path => some ("数据文件结构错误（应为映射列表）: ".toList ++ path.text)
  | .file _ => none
  | .reader _ => none
  | .nameNotText => none
  | .key _ => none

end LoadFault

/-- The fault of a file whose text gives no document. -/
def LoadFault.ofYaml
    (path : Path)
    (fault : Yaml.Fault) : LoadFault :=
  if fault.isYaml then .unreadable path else .reader fault

/-- The document of a file. -/
def Document.load
    [Yaml.Reader]
    (files : FileTree)
    (path : Path) : Except LoadFault Document :=
  if files.isOverlong path then
    .error (.file .nameTooLong)
  else if files.holds path then do
    let text ← (files.read path).mapError .file
    (Yaml.Reader.read text).mapError (.ofYaml path)
  else
    .error (.missing path)

namespace Design

/-- The fields of a design, which may stand under a name of their own. -/
def unwrap (entries : Document.Entries) : Document.Entries :=
  match Document.get? entries "design".toList with
  | some (.mapping inner) => inner
  | _ => entries

/-- The design of a file. -/
def load
    [Yaml.Reader]
    (files : FileTree)
    (path : Path) : Except LoadFault Design := do
  match ← Document.load files path with
  | .mapping entries =>
      let fields := unwrap entries
      if Document.hasTextKeys fields then
        (Design.ofEntries fields).mapError (.invalidDesign path)
      else
        .error .nameNotText
  | _ => .error (.notDesign path)

end Design

/-- A row of a file: values under names. -/
abbrev Record := List (Text × Document)

namespace Record

/-- The text of a key. -/
def keyText : Document → Except NumericFault Text
  | .null => .ok "None".toList
  | .boolean value => .ok (if value then "True".toList else "False".toList)
  | .integer value => Numeral.write value
  | .real value => .ok value.toText
  | .text value => .ok value
  | .date value => .ok value.isoText
  | .moment value => .ok (value.write ' ')
  | .sequence _ => .ok []
  | .mapping _ => .ok []

/-- Put a value under a name: a known name keeps its place and takes the new value. -/
def put
    (record : Record)
    (name : Text)
    (value : Document) : Record :=
  if record.any (·.1 == name) then
    record.map fun entry => if entry.1 = name then (name, value) else entry
  else
    record ++ [(name, value)]

/-- The record with the entries of a mapping. -/
def ofEntries (entries : Document.Entries) : Except NumericFault Record :=
  entries.foldlM (fun record entry => return record.put (← keyText entry.1) entry.2) []

/-- The row that a record is. -/
def toRow (record : Record) : Row :=
  record.map fun entry => (.name entry.1, entry.2.toCell)

/-- The entries of the mappings of a list, if it holds nothing else. -/
def mappings? : List Document → Option (List Document.Entries)
  | [] => some []
  | .mapping entries :: others => (mappings? others).map (entries :: ·)
  | _ => none

/-- The rows of a file; an empty file has none. -/
def load
    [Yaml.Reader]
    (files : FileTree)
    (path : Path) : Except LoadFault (List Record) := do
  match ← Document.load files path with
  | .null => return []
  | .sequence items =>
      match mappings? items with
      | some rows => (rows.mapM ofEntries).mapError .key
      | none => .error (.notRows path)
  | _ => .error (.notRows path)

end Record
end LabelPress
