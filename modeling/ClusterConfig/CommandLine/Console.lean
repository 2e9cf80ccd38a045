import ClusterConfig.CommandLine.Inspection

/-!
# Console

Reports as plain text, for a terminal without styles.

Main definitions:

- `Item.plain`: the text of one thing that is shown.
- `Report.output`, `Report.diagnosis`: what a run prints, and what it prints beside that.
-/

namespace ClusterConfig

namespace CommandLine

/-- The marks for styles. -/
def styleMarks : List String :=
  ["bold cyan", "bold white", "bold red", "bold", "dim", "yellow"].flatMap fun style =>
    ["[" ++ style ++ "]", "[/" ++ style ++ "]"]

/-- A text without its marks for styles. -/
def unmarked (markup : String) : String :=
  styleMarks.foldl (fun text mark => text.replace mark "") markup

/-- A text with blanks up to a width. -/
def padded (width : Nat) (s : String) : String :=
  s ++ String.ofList (List.replicate (width - s.length) ' ')

/-- The lines of a table with two columns. -/
def gridLines (title : String) (columns : List String) (rows : List (String × String)) :
    List String :=
  let rows := rows.map fun row => (row.1, unmarked row.2)
  let width := rows.foldl (fun width row => max width row.1.length) 0
  title :: "  ".intercalate (columns.map (padded width)) ::
    rows.map fun row => padded width row.1 ++ "  " ++ row.2

namespace Item

/-- The text of one thing that is shown. -/
def plain : Item → String
  | .text markup => unmarked markup ++ "\n"
  | panel title body => unmarked title ++ "\n" ++ unmarked body ++ "\n"
  | grid title columns rows => "\n".intercalate (gridLines title columns rows) ++ "\n"
  | json document => document

end Item

namespace Report

/-- What a run prints. -/
def output (r : Report) : String :=
  String.join (r.items.map Item.plain) ++ r.printed

/-- The line of a note. -/
def noteLine (n : Note) : String :=
  n.level.name ++ ":" ++ n.origin ++ ":" ++ n.message ++ "\n"

/-- What a run prints beside its output. -/
def diagnosis (r : Report) : String :=
  let failure :=
    match r.ending with
    | .exit _ => ""
    | .failed failure => failure.message ++ "\n"
  String.join (r.notes.map noteLine) ++ (if r.complaint = "" then "" else r.complaint ++ "\n") ++
    failure

/-- The exit code of a run. -/
def code (r : Report) : Nat :=
  match r.ending with
  | .exit code => code
  | .failed _ => 1

end Report

end CommandLine

end ClusterConfig
