import ClusterConfig.Files

/-!
# File trees

A finite tree of files and directories, and the way a path is followed through it from the
directory at its top: part by part, two dots going back up, no further than a file.

Main definitions:

- `FileTree`: the trees.
- `FileTree.find`: what a path leads to.
- `FileTree.write?`, `FileTree.makeDirectory?`, `FileTree.remove?`: the changes.
-/

namespace ClusterConfig

/-- What stands in a tree: a file with its content, or a directory. -/
inductive Entry where
  | file (content : ByteArray)
  | directory

/-- A tree, as the list of its entries under their names from the top. The top itself is a directory
and has no entry. -/
structure FileTree where
  entries : List (List String × Entry)

/-- Where following a path has come to. -/
inductive Place where
  /-- Inside the tree, under these names. -/
  | inside (names : List String)
  /-- Outside the tree, where nothing is known to be but the directories passed on the way up. -/
  | outside

namespace FileTree

/-- The tree with nothing in it. -/
def empty : FileTree :=
  ⟨[]⟩

/-- The longest name of a file, in bytes. -/
def longestName : Nat := 255

/-- The length of a path text, in bytes, from which on it is refused. -/
def pathLimit : Nat := 4096

/-- What stands under the given names. -/
def get? (tree : FileTree) (names : List String) : Option Entry :=
  if names.isEmpty then some .directory else tree.entries.lookup names

/-- One step from a directory to a part of a path. -/
def step (tree : FileTree) (names : List String) (part : String) : Except Found Place :=
  match tree.get? names with
  | none => .error .missing
  | some (.file _) => .error .underFile
  | some .directory =>
    if part = ".." then
      if names.isEmpty then .ok .outside else .ok (.inside names.dropLast)
    else if longestName < Path.byteSize part then .error .refused
    else .ok (.inside (names ++ [part]))

/-- Follows the parts of a path, starting at a place. -/
def follow (tree : FileTree) : Place → List String → Except Found Place
  | place, [] => .ok place
  | .outside, part :: parts => if part = ".." then follow tree .outside parts else .error .missing
  | .inside names, part :: parts =>
    match tree.step names part with
    | .ok place => follow tree place parts
    | .error found => .error found

/-- The place that a path leads to, or what stopped it on the way. -/
def locate (tree : FileTree) (path : Path) : Except Found Place :=
  if pathLimit ≤ Path.byteSize path.toText then .error .refused
  else follow tree (if path.root = "" then .inside [] else .outside) path.parts

/-- What a path leads to. -/
def find (tree : FileTree) (path : Path) : Found :=
  match tree.locate path with
  | .error found => found
  | .ok .outside => .directory
  | .ok (.inside names) =>
    match tree.get? names with
    | some (.file content) => .file content
    | some .directory => .directory
    | none => .missing

/-- The tree with an entry put under the given names, in the place of any other. -/
def put (tree : FileTree) (names : List String) (entry : Entry) : FileTree :=
  ⟨(names, entry) :: tree.entries.filter fun other => other.1 ≠ names⟩

/-- The tree with nothing under the given names. -/
def erase (tree : FileTree) (names : List String) : FileTree :=
  ⟨tree.entries.filter fun other => other.1 ≠ names⟩

/-- Makes every directory on the way that is missing; `names` leads to where the parts start. -/
def makeAll (tree : FileTree) : Place → List String → Except ReadFault (FileTree × Place)
  | place, [] => .ok (tree, place)
  | .outside, _ :: _ => .error .refused
  | .inside names, part :: parts =>
    match tree.step names part with
    | .error .refused => .error .refused
    | .error _ => .error .underFile
    | .ok .outside => .error .refused
    | .ok (.inside next) =>
      match tree.get? next with
      | none => makeAll (tree.put next .directory) (.inside next) parts
      | some _ => makeAll tree (.inside next) parts

/-- The place where the parts of a path start. -/
def start (path : Path) : Place :=
  if path.root = "" then .inside [] else .outside

/-- The tree with a directory at a path, and all directories above it. -/
def makeDirectory? (tree : FileTree) (path : Path) : Except ReadFault FileTree :=
  (tree.makeAll (start path) path.parts).map (·.1)

/-- The tree with a file at a path, and all directories above it. -/
def write? (tree : FileTree) (path : Path) (content : ByteArray) : Except ReadFault FileTree := do
  if path.hasBadName then throw .badName
  match path.parts.getLast? with
  | none => throw .isDirectory
  | some last =>
    let (tree, place) ← tree.makeAll (start path) path.parts.dropLast
    match place with
    | .outside => throw .refused
    | .inside names =>
      match tree.step names last with
      | .error .underFile => throw .underFile
      | .error .missing => throw .missing
      | .error _ => throw .refused
      | .ok .outside => throw .isDirectory
      | .ok (.inside next) =>
        match tree.get? next with
        | some .directory => throw .isDirectory
        | _ => return tree.put next (.file content)

/-- The tree without the file at a path. -/
def remove? (tree : FileTree) (path : Path) : Except ReadFault FileTree :=
  if path.hasBadName then .error .badName
  else if path.parts.getLast? = some ".." then
    match tree.find path with
    | .directory => .error .isDirectory
    | found => .error (match found.content with | .error fault => fault | .ok _ => .isDirectory)
  else
    match tree.locate path with
    | .error found =>
      .error (match found.content with | .error fault => fault | .ok _ => .isDirectory)
    | .ok .outside => .error .isDirectory
    | .ok (.inside names) =>
      match tree.get? names with
      | none => .error .missing
      | some .directory => .error .isDirectory
      | some (.file _) => .ok (tree.erase names)

/-- A tree as a state of all files. -/
def toFiles (tree : FileTree) : Files :=
  tree.find

end FileTree

end ClusterConfig
