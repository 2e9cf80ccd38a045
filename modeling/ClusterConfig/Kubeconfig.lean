import ClusterConfig.Files
import ClusterConfig.Note
import ClusterConfig.Snapshot
import ClusterConfig.Yaml.Reader

/-!
# Kubeconfig files

A kubeconfig file holds one document, which must be a mapping whose sections are lists.

Main definitions:

- `KubeconfigFault`: why a file is of no use.
- `LoadFault`: why a file gives no document.
- `Kubeconfig.load`: the document of a file.
- `Kubeconfig.parse`: the snapshot of a file.
-/

namespace ClusterConfig

/-- Why a kubeconfig file is of no use. -/
inductive KubeconfigFault where
  /-- The file gives no text. -/
  | unreadable (path : String) (cause : ReadFault)
  /-- The text gives no document. -/
  | invalid (path : String) (cause : Yaml.Fault)
  /-- The document is no mapping but a value of the given type. -/
  | notMapping (path typeName : String)
  /-- A section of the document is no list. -/
  | sectionNotList (path sectionName : String)
  deriving DecidableEq, Repr

namespace KubeconfigFault

/-- The path of the file. -/
def path : KubeconfigFault → String
  | unreadable path _ | invalid path _ | notMapping path _ | sectionNotList path _ => path

/-- The wording of the fault. -/
def message : KubeconfigFault → String
  | unreadable path _ => "Unable to read kubeconfig " ++ path
  | invalid path _ => "Invalid YAML in kubeconfig " ++ path
  | notMapping path typeName => "Kubeconfig " ++ path ++ " must be a mapping, got " ++ typeName
  | sectionNotList _ sectionName => "Kubeconfig section '" ++ sectionName ++ "' must be a list"

end KubeconfigFault

/-- Why a kubeconfig file gives no document or snapshot. -/
inductive LoadFault where
  /-- The file is of no use, which those who look for one can live with. -/
  | unusable (fault : KubeconfigFault)
  /-- No file can have this path. -/
  | badName
  /-- A part of the document has no value. -/
  | part (fault : Yaml.Fault)
  /-- The document has no snapshot. -/
  | access (fault : AccessFault)
  deriving DecidableEq, Repr

namespace Kubeconfig

/-- The sections of a document, in the order in which they are checked. -/
def sections : List String :=
  ["clusters", "contexts", "users"]

/-- Whether a section is a list or absent. -/
def isSection : Value → Bool
  | .null => true
  | v => v.items?.isSome

/-- The document itself if it is sound: a mapping whose sections are lists. Nothing at all counts as
an empty mapping. -/
def check (path : String) (doc : Value) : Except KubeconfigFault Value :=
  match doc with
  | .null => .ok (.map [])
  | doc =>
    match doc.members? with
    | none => .error (.notMapping path doc.typeName)
    | some members =>
      match sections.find? fun name => !isSection (Value.member members name) with
      | some name => .error (.sectionNotList path name)
      | none => .ok doc

/-- The text of a kubeconfig file. -/
def readText (files : Files) (path : Path) : Except LoadFault String :=
  match files.readMarkedText path with
  | .ok text => .ok text
  | .error .badName => .error .badName
  | .error cause => .error (.unusable (.unreadable path.toText cause))

/-- The document of a text that a kubeconfig file at a path holds. -/
def document (path : Path) (outcome : Except Yaml.Fault Value) : Except LoadFault Value :=
  match outcome with
  | .error fault =>
    if fault.isOfDocument then .error (.unusable (.invalid path.toText fault))
    else .error (.part fault)
  | .ok doc =>
    match check path.toText doc with
    | .ok doc => .ok doc
    | .error fault => .error (.unusable fault)

/-- The document of a kubeconfig file, and the reader after it. -/
def load (files : Files) (reader : Yaml.Reader) (path : Path) :
    Except LoadFault Value × Yaml.Reader :=
  match readText files path with
  | .error fault => (.error fault, reader)
  | .ok text =>
    let (outcome, reader) := reader.load text
    (document path outcome, reader)

/-- The snapshot of a document; a document without a current context is reported under the path as
it was given. -/
def snapshotNoted (given : String) (doc : Value) : Noted (Except LoadFault Snapshot) :=
  let (found, outcome) := snapshot doc
  ⟨if found then [] else [.noContext given], outcome.mapError .access⟩

/-- The snapshot of a kubeconfig file, and the reader after it. -/
def parse (files : Files) (reader : Yaml.Reader) (given : String) (path : Path) :
    Noted (Except LoadFault Snapshot) × Yaml.Reader :=
  let (outcome, reader) := load files reader path
  match outcome with
  | .error fault => (.quiet (.error fault), reader)
  | .ok doc => (snapshotNoted given doc, reader)

end Kubeconfig

end ClusterConfig
