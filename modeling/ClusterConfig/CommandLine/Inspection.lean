import ClusterConfig.CommandLine.Invocation
import ClusterConfig.CommandLine.Report
import ClusterConfig.Resolve

/-!
# Inspection

The program itself: it resolves the configuration that a client would work with here, and shows it
or explains a status with it.

Main definitions:

- `Report`: what a run of the program comes to.
- `Options.properties`, `Options.explicit`: what the switches mean for resolution.
- `run`: a run of the program.
-/

namespace ClusterConfig

namespace CommandLine

/-- How a run of the program ends. -/
inductive Ending where
  /-- With an exit code. -/
  | exit (code : Nat)
  /-- There is no configuration, or no path of a kubeconfig file. -/
  | failed (failure : Failure)
  deriving DecidableEq, Repr

/-- What a run of the program comes to. -/
structure Report where
  /-- What is shown. -/
  items : List Item
  /-- Plain text that is printed. -/
  printed : String
  /-- What is wrong with the command line, empty if nothing is. -/
  complaint : String
  /-- The notes that are shown. -/
  notes : List Note
  ending : Ending
  deriving DecidableEq, Repr

namespace Report

/-- A run that shows nothing. -/
def silent (ending : Ending) : Report where
  items := []
  printed := ""
  complaint := ""
  notes := []
  ending := ending

/-- A run that prints a text. -/
def ofPrinted (printed : String) : Report :=
  { silent (.exit 0) with printed }

/-- A run that turns the command line down. -/
def ofMisuse (scope : Scope) (misuse : Misuse) : Report :=
  { silent (.exit 2) with complaint := scope.title ++ ": error: " ++ misuse.message }

/-- A run that the command line stops. -/
def ofStop : Stop → Report
  | .help scope => ofPrinted scope.help
  | .version => ofPrinted (version ++ "\n")
  | .misused scope misuse => ofMisuse scope misuse

/-- A run that its user stops. -/
def interrupted : Report :=
  { silent (.exit 1) with items := [.terminated] }

end Report

namespace Options

/-- The properties that the switches set. -/
def properties (o : Options) : List (String × Value) :=
  (if o.kubeconfig = "" then [] else [(Settings.kubeconfig, .text o.kubeconfig)]) ++
    (if o.noServiceAccount then [(Settings.tryServiceAccount, .text "false")] else []) ++
      (if o.noKubeconfig then [(Settings.tryKubeconfig, .text "false")] else [])

/-- The values that the switches give. -/
def explicit (o : Options) : List (String × Value) :=
  (if o.master = "" then [] else [(Field.masterUrl.name, .text o.master)]) ++
    (if o.namespaceName = "" then [] else [(Field.namespaceName.name, .text o.namespaceName)])

/-- The world as the switches have it. -/
def world (o : Options) (w : World) : World :=
  { w with settings := { w.settings with properties := o.properties } }

/-- The level from which on notes are shown. -/
def leastLevel (o : Options) : Level :=
  if o.verbose then .debug else .warning

/-- The configuration that the switches make in a world. -/
def resolve (o : Options) (w : World) : Resolve.Resolution :=
  ClusterConfig.resolve (o.world w) .fresh o.explicit

end Options

/-- What a configuration is shown as, and how that ends. -/
def showConfig (o : Options) (w : World) (c : Config) : List Item × Ending :=
  let masked := !o.showSecrets
  if o.json then ([.documentText c masked], .exit 0)
  else
    let head := Item.header "Resolved Configuration"
    let body := Item.diagnostics c.messages
    if o.noKubeconfig then (head :: .table c masked :: body, .exit 0)
    else
      match Resolve.kubeconfigPath (o.world w).settings w.home with
      | .ok path => (head :: .table c masked :: .source path.toText :: body, .exit 0)
      | .error failure => ([head], .failed failure)

/-- The explanation of a status with a configuration, and how that ends. -/
def explainStatus (c : Config) (status : Int) : List Item × Ending :=
  match c.message status with
  | some message => ([.explanation status message], .exit 0)
  | none => ([.noExplanation status], .exit 1)

/-- What a command does with a configuration. -/
def act (o : Options) (w : World) (c : Config) : Command → List Item × Ending
  | .unnamed => ([], .exit 0)
  | .showing => showConfig o w c
  | .explaining status => explainStatus c status

/-- The run of a command on the configuration that the switches make. -/
def inspect (o : Options) (w : World) (command : Command) : Report :=
  let r := o.resolve w
  let notes := r.notes.filter (Note.isShownFrom o.leastLevel)
  match r.outcome with
  | .error failure => { Report.silent (.failed failure) with notes }
  | .ok c =>
    let done := act o w c command
    { Report.silent done.2 with items := done.1, notes }

/-- The run of an invocation. -/
def Invocation.run (i : Invocation) (w : World) : Report :=
  match i.command with
  | .unnamed => .ofPrinted (Scope.help .general)
  | command => inspect i.options w command

/-- A run of the program. Without arguments it introduces itself. -/
def run (w : World) (arguments : List String) : Report :=
  match arguments with
  | [] => { Report.ofPrinted (Scope.help .general) with
      items := [.header "Kubernetes Client Configuration"] }
  | arguments =>
    match Invocation.ofArguments arguments with
    | .ok invocation => invocation.run w
    | .error stop => .ofStop stop

namespace Options

/-- Whether notes are shown has no part in resolution. -/
theorem resolve_verbose (o : Options) (w : World) (verbose : Bool) :
    { o with verbose }.resolve w = o.resolve w :=
  rfl

end Options

end CommandLine

end ClusterConfig
