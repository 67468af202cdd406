import LabelPress.Text.Search

/-!
# File trees

The files and folders that a program can reach.  A path is written with slashes between
its parts; empty parts and single dots mean nothing, and two dots lead to the folder
around.  Names and paths have a greatest length in bytes.  Links and permissions are left
out: whatever is in a tree can be read and written.  Main statement: a file that was put
somewhere is found there.
-/

namespace LabelPress

/-- Why a file cannot be read, written or removed. -/
inductive FileFault where
  /-- Neither a file nor a folder is there. -/
  | missing
  /-- A folder is there. -/
  | isFolder
  /-- A file stands where the path needs a folder. -/
  | notFolder
  /-- A file stands where a folder is to be made. -/
  | occupied
  /-- A name or the path as a whole has too many bytes. -/
  | nameTooLong
  /-- There is a null character in the path. -/
  | nullCharacter
deriving DecidableEq

/-- A path to a file or folder. -/
structure Path where
  /-- The slashes that a path starts with. -/
  root : Text
  /-- The names of the folders and of the file at last. -/
  parts : List Text
deriving DecidableEq

namespace Path

/-- The slashes that a path starts with; three or more are one. -/
def rootOf : Text → Text
  | ['/', '/'] => "//".toList
  | '/' :: '/' :: '/' :: _ => "/".toList
  | '/' :: '/' :: _ => "//".toList
  | '/' :: _ => "/".toList
  | _ => []

/-- The path that a text writes. -/
def ofText (text : Text) : Path :=
  ⟨rootOf text, (Text.splitAt '/' text).filter fun part => part ≠ [] ∧ part ≠ ['.']⟩

/-- The names that lead to the end of a path; a root is the first of them. -/
def names (path : Path) : List Text :=
  if path.root = [] then path.parts else path.root :: path.parts

/-- The shortest text that writes a path. -/
def text (path : Path) : Text :=
  if path.root = [] ∧ path.parts = [] then
    ['.']
  else
    path.root ++ Text.join ['/'] path.parts

/-- The number of bytes of a name or a path. -/
def bytes (text : Text) : Nat :=
  text.foldl (fun total c => total + c.utf8Size) 0

/-- The most bytes of one name. -/
def nameLimit : Nat := 255

/-- The most bytes of a whole path. -/
def pathLimit : Nat := 4095

/-- Why a path is refused before any of its names is looked for. -/
def fault? (path : Path) : Option FileFault :=
  if '\x00' ∈ path.text then
    some .nullCharacter
  else if pathLimit < bytes path.text then
    some .nameTooLong
  else
    none

end Path

/-- The files and folders that can be reached from one folder. -/
structure FileTree where
  /-- The texts of the files. -/
  files : List (List Text × Text)
  /-- The folders other than the one of the tree. -/
  folders : List (List Text)

namespace FileTree

/-- A tree without files. -/
def empty : FileTree :=
  ⟨[], []⟩

/-- A folder is at a place. -/
def isFolder
    (tree : FileTree)
    (place : List Text) : Bool :=
  place.isEmpty || tree.folders.contains place

/-- The text of the file at a place. -/
def file?
    (tree : FileTree)
    (place : List Text) : Option Text :=
  tree.files.lookup place

/--
Follow the parts of a path from a place, whose last part comes first.  A name that is too
long is noticed where it is looked for.
-/
def follow
    (tree : FileTree) : List Text → List Text → Except FileFault (List Text)
  | here, [] => .ok here.reverse
  | here, part :: others =>
      if tree.isFolder here.reverse then
        if part = "..".toList then
          match here with
          | [] => .error .missing
          | _ :: outer => tree.follow outer others
        else if Path.nameLimit < Path.bytes part then
          .error .nameTooLong
        else
          tree.follow (part :: here) others
      else if (tree.file? here.reverse).isSome then
        .error .notFolder
      else
        .error .missing

/-- The place that a path leads to. -/
def place
    (tree : FileTree)
    (path : Path) : Except FileFault (List Text) :=
  match path.fault? with
  | some fault => .error fault
  | none => tree.follow [] path.names

/-- A file or a folder is at the end of a path. -/
def holds
    (tree : FileTree)
    (path : Path) : Bool :=
  match tree.place path with
  | .ok place => tree.isFolder place || (tree.file? place).isSome
  | .error _ => false

/-- Nothing can be looked for at the end of a path, which is too long or has such a name. -/
def isOverlong
    (tree : FileTree)
    (path : Path) : Bool :=
  match tree.place path with
  | .error .nameTooLong => true
  | _ => false

/-- A line break of any kind becomes a single line feed. -/
def normalizeBreaks : Text → Text
  | '\r' :: '\n' :: rest => '\n' :: normalizeBreaks rest
  | '\r' :: rest => '\n' :: normalizeBreaks rest
  | c :: rest => c :: normalizeBreaks rest
  | [] => []

/-- The text of a file. -/
def read
    (tree : FileTree)
    (path : Path) : Except FileFault Text := do
  let place ← tree.place path
  if tree.isFolder place then
    .error .isFolder
  else
    match tree.file? place with
    | some text => .ok (normalizeBreaks text)
    | none => .error .missing

/-- Set the text of the file at a place. -/
def put
    (tree : FileTree)
    (place : List Text)
    (text : Text) : FileTree :=
  { tree with files := (place, text) :: tree.files.filter fun entry => entry.1 ≠ place }

/-- Write a file into a folder that exists. -/
def write
    (tree : FileTree)
    (path : Path)
    (text : Text) : Except FileFault FileTree := do
  let place ← tree.place path
  if tree.isFolder place then
    .error .isFolder
  else
    .ok (tree.put place text)

/-- Make a folder and the folders around it. -/
def makeFolder (tree : FileTree) : List Text → List Text → Except FileFault FileTree
  | _, [] => .ok tree
  | outer, part :: others =>
      let here := outer ++ [part]
      if tree.isFolder here then
        tree.makeFolder here others
      else if (tree.file? here).isSome then
        .error (if others = [] then .occupied else .notFolder)
      else if Path.nameLimit < Path.bytes part then
        .error .nameTooLong
      else
        { tree with folders := here :: tree.folders }.makeFolder here others

/-- Write a file and make the folders around it. -/
def store
    (tree : FileTree)
    (path : Path)
    (text : Text) : Except FileFault FileTree := do
  let tree ← tree.makeFolder [] path.names.dropLast
  tree.write path text

/-- Remove a file. -/
def remove
    (tree : FileTree)
    (path : Path) : Except FileFault FileTree := do
  let place ← tree.place path
  if tree.isFolder place then
    .error .isFolder
  else if (tree.file? place).isSome then
    .ok { tree with files := tree.files.filter fun entry => entry.1 ≠ place }
  else
    .error .missing

/-- A file that was put at a place is found there. -/
theorem file?_put
    (tree : FileTree)
    (place : List Text)
    (text : Text) :
    (tree.put place text).file? place = some text := by
  simp [file?, put]

end FileTree
end LabelPress
