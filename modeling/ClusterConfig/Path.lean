import ClusterConfig.Text.Half

/-!
# Paths

The name of a file as a list of parts. A text names a path through its parts between slashes, where
empty parts and single dots do not count; two dots are kept, for only the file system knows where
they lead.

Main definitions:

- `Path.ofText`, `Path.toText`: the path that a text names, and its normal text.
- `Path.hasBadName`: whether no file can have the name that the path asks for.
-/

namespace ClusterConfig

/-- A path: the slashes it starts at (none for a relative path) and its parts. -/
structure Path where
  root : String
  parts : List String
  deriving DecidableEq, Repr

namespace Path

/-- The pieces of a text between slashes. -/
def pieces (s : String) : List String :=
  (s.toList.splitOn '/').map String.ofList

/-- One slash starts at the root, and so do three or more; two are a root of their own. -/
def rootOf : List Char → String
  | '/' :: '/' :: '/' :: _ => "/"
  | '/' :: '/' :: _ => "//"
  | '/' :: _ => "/"
  | _ => ""

/-- The path that a text names. -/
def ofText (s : String) : Path where
  root := rootOf s.toList
  parts := (pieces s).filter fun part => part ≠ "" ∧ part ≠ "."

/-- The normal text of a path. -/
def toText (p : Path) : String :=
  if p.root = "" ∧ p.parts = [] then "." else p.root ++ String.intercalate "/" p.parts

/-- Whether a character can stand in the name of a file: no null character can, and of the halves of
pairs only those that stand for a byte. -/
def mayName (c : Char) : Bool :=
  c != '\x00' && (Text.halfCode? c).all Text.isByteCode

/-- Whether the path has a character that no file name can have. -/
def hasBadName (p : Path) : Bool :=
  p.parts.any fun part => !part.toList.all mayName

/-- The length of a text as the system counts it: the bytes of its characters, and one for a half
that stands for a byte. -/
def byteSize (text : String) : Nat :=
  text.toList.foldl (fun size c => size + if (Text.halfCode? c).isSome then 1 else c.utf8Size) 0

/-- A half of a pair can stand in the name of a file if it stands for a byte, and only then. -/
theorem mayName_ofCode {code : Nat} (h : Text.isHalfCode code = true) :
    mayName (Text.ofCode code) = Text.isByteCode code := by
  have hhalf := Text.halfCode?_ofCode h
  have hne : Text.ofCode code ≠ '\x00' := by
    intro hnull
    have hnone : Text.halfCode? '\x00' = none := by decide
    rw [hnull, hnone] at hhalf
    cases hhalf
  simp [mayName, hhalf, hne]

end Path

end ClusterConfig
