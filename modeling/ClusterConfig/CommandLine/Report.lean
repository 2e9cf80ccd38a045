import ClusterConfig.Config
import ClusterConfig.Json
import ClusterConfig.Note

/-!
# Reports

What the program shows of a configuration: a table with one row for each field and the diagnostics
below it, or a document.

Main definitions:

- `Item`: the things that are shown.
- `Item.table`, `Item.diagnostics`, `Item.document`: what is shown of a configuration.
- `cell`: a value in a table.
-/

namespace ClusterConfig

namespace CommandLine

/-- The things that are shown. Texts may hold marks for their style, in square brackets. -/
inductive Item where
  | text (markup : String)
  | panel (title body : String)
  | grid (title : String) (columns : List String) (rows : List (String × String))
  | json (text : String)
  deriving DecidableEq, Repr

/-- The name and the version of the program. -/
def version : String := "kubeconf v1.0.0"

/-- A value in a table: nothing is a dim hyphen, and items stand between commas. -/
def cell : Value → String
  | .null => "[dim]-[/dim]"
  | .list items | .tuple items => Value.commas (items.map Value.asText)
  | v => v.asText

namespace Item

/-- The head of a report. -/
def header (subtitle : String) : Item :=
  .panel ("[bold white]" ++ subtitle ++ "[/bold white]")
    ("[bold cyan]" ++ version ++ "[/bold cyan]")

/-- A configuration as a table, one row for each field. -/
def table (c : Config) (masked : Bool) : Item :=
  .grid "Resolved Client Configuration" ["Setting", "Value"]
    (Field.all.map fun f => (f.name, cell (c.shown masked f)))

/-- The line that names the kubeconfig file. -/
def source (path : String) : Item :=
  .text ("[dim]kubeconfig: " ++ path ++ "[/dim]")

/-- Diagnostics in the order of their statuses. -/
def inOrder (messages : List (Int × String)) : List (Int × String) :=
  messages.mergeSort fun m n => m.1 ≤ n.1

/-- The line of a diagnostic. -/
def messageLine (message : Int × String) : String :=
  "[bold]" ++ Value.intText message.1 ++ "[/bold]  " ++ message.2

/-- The diagnostics, if there are any. -/
def diagnostics (messages : List (Int × String)) : List Item :=
  if messages.isEmpty then []
  else [.panel "Diagnostics" ("\n".intercalate ((inOrder messages).map messageLine))]

/-- A configuration as a document. -/
def document (c : Config) (masked : Bool) : Json :=
  .object ((c.toRecord masked).map fun entry => (entry.1, Json.ofValue entry.2))

/-- A configuration as the text of a document. -/
def documentText (c : Config) (masked : Bool) : Item :=
  .json ((document c masked).pretty ++ "\n")

/-- The explanation of a status. -/
def explanation (status : Int) (message : String) : Item :=
  .text ("[bold]" ++ Value.intText status ++ "[/bold] " ++ message)

/-- The answer for a status without an explanation. -/
def noExplanation (status : Int) : Item :=
  .text ("[yellow]No diagnostic registered for HTTP " ++ Value.intText status ++ ".[/yellow]")

/-- The answer to a user who stops the program. -/
def terminated : Item :=
  .text "\n[bold red]Terminated by user.[/bold red]"

@[simp]
theorem diagnostics_nil : diagnostics [] = [] :=
  rfl

/-- Putting diagnostics in order neither loses nor adds one. -/
theorem inOrder_perm (messages : List (Int × String)) : (inOrder messages).Perm messages :=
  List.mergeSort_perm messages _

end Item

end CommandLine

end ClusterConfig
