import ClusterConfig.CommandLine.Console

/-!
# The program

Reads the variables of the environment and the files that a run can ask for, and prints what the run
comes to.
-/

namespace ClusterConfig

namespace CommandLine

/-- The variables that settings are read from, as far as they are set. -/
def readVariables : List String → IO (List (String × String))
  | [] => pure []
  | name :: names => do
    let value ← IO.getEnv name
    let others ← readVariables names
    match value with
    | some value => pure ((name, value) :: others)
    | none => pure others

/-- The home directory of an account in a table with one account a line, in parts between colons. -/
def accountHome? (table name : String) : Option String :=
  (table.splitOn "\n").findSome? fun line =>
    match line.splitOn ":" with
    | account :: _ :: _ :: _ :: _ :: home :: _ => if account = name then some home else none
    | _ => none

/-- The home directories that the system knows. -/
def readHomes : IO Homes := do
  let own ← IO.getEnv "HOME"
  let table ← try IO.FS.readFile "/etc/passwd" catch _ => pure ""
  pure { own := own.getD "", accounts := accountHome? table }

/-- What a path leads to. -/
def look (path : Path) : IO Found := do
  try
    let bytes ← IO.FS.readBinFile path.toText
    pure (.file bytes)
  catch
    | .noFileOrDirectory .. => pure .missing
    | _ => pure .refused

/-- What several paths lead to. -/
def lookAll : List Path → IO (List (Path × Found))
  | [] => pure []
  | path :: paths => do
    let found ← look path
    let others ← lookAll paths
    pure ((path, found) :: others)

/-- The paths that a run can ask for. -/
def consulted (settings : Settings) (home : Homes) (mount : Mount) (arguments : List String) :
    List Path :=
  let mounted := [Path.ofText mount.tokenPath, Path.ofText mount.caPath]
  match Invocation.ofArguments arguments with
  | .error _ => mounted
  | .ok invocation =>
    let settings := { settings with properties := invocation.options.properties }
    match Resolve.kubeconfigPath settings home with
    | .ok path => mounted ++ [path]
    | .error _ => mounted

end CommandLine

end ClusterConfig

open ClusterConfig CommandLine in
/-- Runs the program. -/
def main (arguments : List String) : IO UInt32 := do
  let environ ← readVariables (Settings.names.map variableName)
  let home ← readHomes
  let settings : Settings := { properties := [], environ }
  let found ← lookAll (consulted settings home .standard arguments)
  let files : Files := fun path => (found.lookup path).getD .missing
  let report := run { settings, files, home, mount := .standard } arguments
  IO.print report.output
  IO.eprint report.diagnosis
  pure (UInt32.ofNat report.code)
