import ClusterConfig.CommandLine.Word
import ClusterConfig.Number.Integer

/-!
# Invocations

What a command line asks for. Its arguments are taken from left to right: switches have their effect
at once, the first other argument before a command is the command's name, and all that follows
belongs to the command. Arguments without a meaning are collected and turned down at the end.

Main definitions:

- `Options`: what the switches of a command line say.
- `Invocation`: what a command line asks for.
- `Stop`: why a command line asks for nothing.
- `Scope.take`: the arguments of a part, one after the other.
- `Invocation.ofArguments`: the reading of a whole command line.
-/

namespace ClusterConfig

namespace CommandLine

/-- What the switches of a command line say. A text that is not given is empty. -/
structure Options where
  verbose : Bool
  kubeconfig : String
  noServiceAccount : Bool
  noKubeconfig : Bool
  master : String
  namespaceName : String
  json : Bool
  showSecrets : Bool
  deriving DecidableEq, Repr

namespace Options

/-- What no switch says anything about. -/
def none : Options where
  verbose := false
  kubeconfig := ""
  noServiceAccount := false
  noKubeconfig := false
  master := ""
  namespaceName := ""
  json := false
  showSecrets := false

/-- The effect of a switch without a value. -/
def turnOn (o : Options) : Switch → Options
  | .verbose => { o with verbose := true }
  | .noServiceAccount => { o with noServiceAccount := true }
  | .noKubeconfig => { o with noKubeconfig := true }
  | .json => { o with json := true }
  | .showSecrets => { o with showSecrets := true }
  | _ => o

/-- The effect of a switch with its value; the last value given counts. -/
def assign (o : Options) (s : Switch) (value : String) : Options :=
  match s with
  | .kubeconfig => { o with kubeconfig := value }
  | .master => { o with master := value }
  | .namespaceName => { o with namespaceName := value }
  | _ => o

end Options

/-- The commands. -/
inductive Command where
  /-- No command is named. -/
  | unnamed
  /-- The configuration is shown. -/
  | showing
  /-- A status is explained. -/
  | explaining (status : Int)
  deriving DecidableEq, Repr

/-- What a command line asks for. -/
structure Invocation where
  options : Options
  command : Command
  deriving DecidableEq, Repr

/-- Why a command line asks for nothing. -/
inductive Stop where
  /-- It asks for help on one of its parts. -/
  | help (scope : Scope)
  /-- It asks for the version. -/
  | version
  /-- Something is wrong with one of its parts. -/
  | misused (scope : Scope) (misuse : Misuse)
  deriving DecidableEq, Repr

/-- What an argument that is no switch can stand for. -/
inductive Operand where
  | command
  | status
  | nothing
  deriving DecidableEq, Repr

/-- What has been taken from the arguments of a part. -/
structure Taken where
  options : Options
  status : Option Int
  /-- The arguments without a meaning. -/
  extras : List String
  /-- The name of a command and the arguments after it. -/
  handed : List String

namespace Taken

/-- Nothing yet, besides the switches of a part before. -/
def start (options : Options) : Taken :=
  ⟨options, none, [], []⟩

/-- One more argument without a meaning. -/
def leave (t : Taken) (argument : String) : Taken :=
  { t with extras := t.extras ++ [argument] }

/-- The effect of a switch with its value; two hyphens alone are no value. -/
def assign (t : Taken) (s : Switch) (value : String) : Taken :=
  { t with options := t.options.assign s (if value = "--" then "" else value) }

end Taken

namespace Scope

/-- What the next argument that is no switch stands for. -/
def operand (scope : Scope) (t : Taken) : Operand :=
  match scope with
  | general => .command
  | showing => .nothing
  | explaining => if t.status.isSome then .nothing else .status

/-- The effect of switches without values. -/
def turnOn (scope : Scope) : List Switch → Taken → Except Stop Taken
  | [], t => .ok t
  | .help :: _, _ => .error (.help scope)
  | .version :: _, _ => .error .version
  | s :: switches, t => scope.turnOn switches { t with options := t.options.turnOn s }

/-- The number that an argument spells. -/
def readStatus? (argument : String) : Option Int :=
  Integer.readWithin? (some Integer.digitLimit) argument.toList

/-- Takes the arguments of a part, one after the other. -/
def take (scope : Scope) : List (String × Word) → Taken → Except Stop Taken
  | [], t => .ok t
  | (argument, word) :: rest, t =>
    match word with
    | .flags switches =>
      match scope.turnOn switches t with
      | .ok t => scope.take rest t
      | .error stop => .error stop
    | .assigned s value => scope.take rest (t.assign s value)
    | .overfull s value => .error (.misused scope (.unwantedValue s value))
    | .unknown => scope.take rest (t.leave argument)
    | .wanting s =>
      match rest with
      | (value, .plain) :: rest => scope.take rest (t.assign s value)
      | _ => .error (.misused scope (.noValue s))
    | .plain =>
      match scope.operand t with
      | .command => .ok { t with handed := argument :: rest.map (·.1) }
      | .nothing => scope.take rest (t.leave argument)
      | .status =>
        match readStatus? argument with
        | none => .error (.misused scope (.notStatus argument))
        | some n =>
          match rest with
          | (_, .separator) :: rest => scope.take rest { t with status := some n }
          | rest => scope.take rest { t with status := some n }
    | .separator =>
      match scope.operand t, rest with
      | _, [] => .ok (t.leave argument)
      | .command, rest => .ok { t with handed := argument :: rest.map (·.1) }
      | .nothing, rest => scope.take rest (t.leave argument)
      | .status, rest => scope.take rest t

/-- The reading of the arguments of a part. -/
def read (scope : Scope) (arguments : List String) (options : Options) : Except Stop Taken :=
  match scope.words arguments with
  | .error misuse => .error (.misused scope misuse)
  | .ok words => scope.take words (.start options)

/-- The command of a part, from what was taken. -/
def command (scope : Scope) (t : Taken) : Except Stop Command :=
  match scope with
  | general => .ok .unnamed
  | showing => .ok .showing
  | explaining =>
    match t.status with
    | some status => .ok (.explaining status)
    | none => .error (.misused scope .noStatus)

end Scope

namespace Invocation

/-- The invocation of a part, unless arguments without a meaning are left over. -/
def ofTaken (scope : Scope) (t : Taken) (extras : List String) : Except Stop Invocation :=
  match scope.command t with
  | .error stop => .error stop
  | .ok command =>
    if extras.isEmpty then .ok ⟨t.options, command⟩
    else .error (.misused .general (.unrecognized extras))

/-- The reading of a whole command line. -/
def ofArguments (arguments : List String) : Except Stop Invocation :=
  match Scope.read .general arguments .none with
  | .error stop => .error stop
  | .ok t =>
    match t.handed with
    | [] => ofTaken .general t t.extras
    | name :: arguments =>
      match Scope.commands.lookup name with
      | none => .error (.misused .general (.noCommand name))
      | some scope =>
        match scope.read arguments t.options with
        | .error stop => .error stop
        | .ok inner => ofTaken scope inner (t.extras ++ inner.extras)

end Invocation

namespace Scope

@[simp]
theorem turnOn_nil (scope : Scope) (t : Taken) : scope.turnOn [] t = .ok t :=
  rfl

@[simp]
theorem take_nil (scope : Scope) (t : Taken) : scope.take [] t = .ok t := by
  simp [take]

/-- A switch with its value has its effect and no other. -/
theorem take_assigned (scope : Scope) (argument : String) (s : Switch) (value : String)
    (rest : List (String × Word)) (t : Taken) :
    scope.take ((argument, .assigned s value) :: rest) t = scope.take rest (t.assign s value) := by
  simp [take]

end Scope

end CommandLine

end ClusterConfig
