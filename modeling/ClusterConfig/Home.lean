import ClusterConfig.Path

/-!
# Home directories

A path can start at a home directory. A tilde stands for the caller's own one, and a tilde with a
name behind it for that of the account of this name.

Main definitions:

- `Homes`: the home directories that are known.
- `Path.expand`: the path with the home directory in the place of a leading tilde, or why there is
  none.
-/

namespace ClusterConfig

/-- The home directories that are known: the caller's own and those of the accounts, by name. -/
structure Homes where
  own : String
  accounts : String → Option String

/-- One's own home directory, where no account is known. -/
instance : Coe String Homes where
  coe own := ⟨own, fun _ => none⟩

/-- Why a tilde stands for no directory. -/
inductive HomeFault where
  /-- There is no account of the name, or the home directory starts with a tilde itself. -/
  | unknown
  /-- The name has a character that no name can have. -/
  | badName
  deriving DecidableEq, Repr

namespace Homes

/-- The home directory for the name behind a tilde; without a name it is one's own. -/
def find? (homes : Homes) (name : List Char) : Option String :=
  if name.isEmpty then some homes.own else homes.accounts (String.ofList name)

/-- A directory without the slashes at its end, unless it is nothing but slashes. -/
def withoutSlashes (dir : String) : String :=
  let kept := (dir.toList.reverse.dropWhile (· == '/')).reverse
  if kept.isEmpty then "/" else String.ofList kept

/-- The directory that a tilde stands for with the name behind it. -/
def directory (homes : Homes) (name : List Char) : Except HomeFault Path :=
  if name.all Path.mayName then
    match homes.find? name with
    | none => .error .unknown
    | some home =>
      let dir := withoutSlashes home
      if dir.toList.head? = some '~' then .error .unknown else .ok (.ofText dir)
  else .error .badName

end Homes

/-- The path with the home directory in the place of a leading tilde. -/
def Path.expand (homes : Homes) (p : Path) : Except HomeFault Path :=
  match p.root, p.parts with
  | "", first :: rest =>
    match first.toList with
    | '~' :: name => (homes.directory name).map fun dir => { dir with parts := dir.parts ++ rest }
    | _ => .ok p
  | _, _ => .ok p

end ClusterConfig
