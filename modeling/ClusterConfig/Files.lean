import ClusterConfig.Path
import ClusterConfig.Text.Decode

/-!
# Files

What a path leads to, and the two questions that are asked about it: whether it is a file, and what
text it holds.

Main definitions:

- `Found`: what a path leads to.
- `Files`: a state of all files, as a function from paths.
- `Files.isFile`, `Files.readText`: the two questions.
-/

namespace ClusterConfig

/-- What a path leads to. -/
inductive Found where
  /-- A file with its content. -/
  | file (content : ByteArray)
  | directory
  /-- There is nothing under this name. -/
  | missing
  /-- A part of the path before its last is a file. -/
  | underFile
  /-- The system refuses the name, for instance because it is too long. -/
  | refused
  deriving Inhabited

/-- A state of all files. -/
abbrev Files := Path → Found

/-- Why a file gives no text. -/
inductive ReadFault where
  | missing
  | isDirectory
  | underFile
  | refused
  /-- The content is not UTF-8. -/
  | notText
  /-- The path has a character that no file name can have. -/
  | badName
  deriving DecidableEq, Repr

namespace Found

/-- The content of a file. -/
def content : Found → Except ReadFault ByteArray
  | file bytes => .ok bytes
  | directory => .error .isDirectory
  | missing => .error .missing
  | underFile => .error .underFile
  | refused => .error .refused

/-- Whether this is a file. -/
def isFile : Found → Bool
  | file _ => true
  | _ => false

end Found

namespace Files

/-- Whether the path leads to a file. -/
def isFile (files : Files) (path : Path) : Bool :=
  !path.hasBadName && (files path).isFile

/-- The content of the file at a path. -/
def readBytes (files : Files) (path : Path) : Except ReadFault ByteArray :=
  if path.hasBadName then .error .badName else (files path).content

/-- The text that a decoder finds in the file at a path. -/
def readWith (decode : ByteArray → Option String) (files : Files) (path : Path) :
    Except ReadFault String :=
  match files.readBytes path with
  | .ok bytes =>
    match decode bytes with
    | some s => .ok s
    | none => .error .notText
  | .error fault => .error fault

/-- The text of the file at a path. -/
def readText (files : Files) (path : Path) : Except ReadFault String :=
  files.readWith Text.decode? path

/-- The text of the file at a path, without a leading byte order mark. -/
def readMarkedText (files : Files) (path : Path) : Except ReadFault String :=
  files.readWith Text.decodeMarked? path

/-- A path with an impossible name leads to no file. -/
theorem isFile_of_hasBadName {files : Files} {path : Path} (h : path.hasBadName = true) :
    files.isFile path = false := by
  simp [isFile, h]

/-- A reading fails for the name just where no file can have that name. -/
theorem readWith_eq_badName_iff {decode : ByteArray → Option String} {files : Files} {path : Path} :
    files.readWith decode path = .error .badName ↔ path.hasBadName = true := by
  unfold readWith readBytes
  cases hname : path.hasBadName with
  | true => simp
  | false =>
    cases files path with
    | file bytes => cases hdecode : decode bytes <;> simp [Found.content, hdecode]
    | _ => simp [Found.content]

/-- The text at a path depends on the files only through what the path leads to. -/
theorem readWith_congr {decode : ByteArray → Option String} {files files' : Files} {path : Path}
    (h : files path = files' path) :
    files.readWith decode path = files'.readWith decode path := by
  simp [readWith, readBytes, h]

end Files

end ClusterConfig
