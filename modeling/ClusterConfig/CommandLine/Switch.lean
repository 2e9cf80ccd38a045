/-!
# Switches

The words of a command line that start with a hyphen, and the parts of a command line in which they
may stand: before the name of a command, or after it.

Main definitions:

- `Switch`: the switches.
- `Scope`: the parts of a command line, each with the switches it knows.
- `Scope.help`: what is shown when help is asked for.
-/

namespace ClusterConfig

namespace CommandLine

/-- The switches. -/
inductive Switch where
  | help
  | version
  | verbose
  | kubeconfig
  | noServiceAccount
  | noKubeconfig
  | master
  | namespaceName
  | json
  | showSecrets
  deriving DecidableEq, Repr

namespace Switch

/-- The spellings of a switch. -/
def spellings : Switch → List String
  | help => ["-h", "--help"]
  | version => ["--version"]
  | verbose => ["-v", "--verbose"]
  | kubeconfig => ["--kubeconfig"]
  | noServiceAccount => ["--no-service-account"]
  | noKubeconfig => ["--no-kubeconfig"]
  | master => ["--master"]
  | namespaceName => ["--namespace"]
  | json => ["--json"]
  | showSecrets => ["--show-secrets"]

/-- Whether a switch has a value. -/
def takesValue : Switch → Bool
  | kubeconfig | master | namespaceName => true
  | _ => false

/-- All spellings of a switch, as messages show it. -/
def title (s : Switch) : String :=
  "/".intercalate s.spellings

end Switch

/-- The parts of a command line. -/
inductive Scope where
  /-- What stands before the name of a command. -/
  | general
  /-- The command that shows the configuration. -/
  | showing
  /-- The command that explains a status. -/
  | explaining
  deriving DecidableEq, Repr

namespace Scope

/-- The name of the program. -/
def program : String := "kubeconf"

/-- The words that messages about a part start with. -/
def title : Scope → String
  | general => program
  | showing => program ++ " show"
  | explaining => program ++ " explain"

/-- The switches that say where a configuration comes from. -/
def sources : List Switch :=
  [.kubeconfig, .noServiceAccount, .noKubeconfig, .master, .namespaceName]

/-- The switches of a part, in the order in which they are listed. -/
def switches : Scope → List Switch
  | general => [.help, .version, .verbose]
  | showing => .help :: sources ++ [.json, .showSecrets]
  | explaining => .help :: sources

/-- The spellings that a part knows, each with its switch. -/
def spellings (scope : Scope) : List (String × Switch) :=
  scope.switches.flatMap fun s => s.spellings.map fun spelling => (spelling, s)

/-- The names of the commands, each with its part. -/
def commands : List (String × Scope) :=
  [("show", showing), ("explain", explaining)]

/-- The help on the switches that say where a configuration comes from. -/
def sourceHelp : String :=
  "\n".intercalate
    ["options:",
      "  -h, --help            show this help message and exit",
      "  --kubeconfig KUBECONFIG",
      "                        Kubeconfig file (default: ~/.kube/config)",
      "  --no-service-account  Ignore the mounted service account",
      "  --no-kubeconfig       Ignore the kubeconfig file",
      "  --master MASTER       Explicit API server URL",
      "  --namespace NAMESPACE",
      "                        Explicit namespace",
      ""]

/-- The help on a part. -/
def help : Scope → String
  | general =>
    "\n".intercalate
      ["usage: kubeconf [-h] [--version] [-v] Command ...",
        "",
        "KubeConf - Kubernetes client configuration resolver",
        "",
        "positional arguments:",
        "  Command",
        "    show         Print the resolved configuration",
        "    explain      Show the diagnostic for an HTTP status",
        "",
        "options:",
        "  -h, --help     show this help message and exit",
        "  --version      show program's version number and exit",
        "  -v, --verbose  Debug logging",
        ""]
  | showing =>
    "\n".intercalate
      ["usage: kubeconf show [-h] [--kubeconfig KUBECONFIG] [--no-service-account]",
        "                     [--no-kubeconfig] [--master MASTER]",
        "                     [--namespace NAMESPACE] [--json] [--show-secrets]",
        "",
        sourceHelp] ++
    "\n".intercalate
      ["  --json                Emit JSON instead of a table",
        "  --show-secrets        Do not mask tokens and passwords",
        ""]
  | explaining =>
    "\n".intercalate
      ["usage: kubeconf explain [-h] [--kubeconfig KUBECONFIG] [--no-service-account]",
        "                        [--no-kubeconfig] [--master MASTER]",
        "                        [--namespace NAMESPACE]",
        "                        status",
        "",
        "positional arguments:",
        "  status                HTTP status code, e.g. 401",
        "",
        sourceHelp]

/-- No part has two switches with one spelling. -/
theorem nodup_spellings (scope : Scope) : (scope.spellings.map (·.1)).Nodup := by
  cases scope <;> decide

end Scope

end CommandLine

end ClusterConfig
