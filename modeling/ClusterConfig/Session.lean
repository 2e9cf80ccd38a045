import ClusterConfig.Builder
import ClusterConfig.FileTree

/-!
# Sessions

One resolver at work: resolutions and readings of files, one after the other, while settings and
files change between them.

Main definitions:

- `Request`: what can be asked of a session.
- `Reply`: what it answers.
- `Session`: what a session keeps.
- `Session.step`, `Session.run`: the answer to one request, and to several.
-/

namespace ClusterConfig

/-- What can be asked of a session. -/
inductive Request where
  /-- The configuration that the given values make. -/
  | resolve (explicit : List (String × Value))
  /-- The same with the environment alone, the usual mount and a reader of its own. -/
  | resolveAlone (explicit : List (String × Value))
  /-- One more value for the builder. -/
  | give (name : String) (value : Value)
  /-- The configuration that the builder's values make. -/
  | build
  /-- A builder without values. -/
  | newBuilder
  /-- The path of the kubeconfig file. -/
  | kubeconfigPath
  /-- The snapshot of a kubeconfig file. -/
  | parse (path : String)
  /-- A property gets a value, or none. -/
  | setProperty (name : String) (value : Option Value)
  /-- A variable of the environment gets a value, or none. -/
  | setVariable (name : String) (value : Option String)
  /-- A file gets a content. -/
  | write (path : String) (content : ByteArray)
  /-- A file goes away. -/
  | remove (path : String)

/-- What a session answers. -/
inductive Reply where
  | config (c : Config)
  | failed (failure : Failure)
  | values (values : List (Field × Value))
  | refused (fault : GiveFault)
  | path (path : String)
  | snapshot (s : Snapshot)
  | notLoaded (fault : LoadFault)
  | done
  | fileFault (fault : ReadFault)

/-- What a session keeps. -/
structure Session where
  settings : Settings
  tree : FileTree
  home : Homes
  mount : Mount
  /-- The mount of resolutions that do not use this session's own. -/
  usualMount : Mount
  reader : Yaml.Reader
  builder : ConfigBuilder
  /-- The last configuration, if the last resolution made one. -/
  last : Option Config

namespace Session

/-- A session that nothing was asked of. -/
def start (settings : Settings) (tree : FileTree) (home : Homes) (mount usualMount : Mount) :
    Session where
  settings := settings
  tree := tree
  home := home
  mount := mount
  usualMount := usualMount
  reader := .fresh
  builder := .empty
  last := none

/-- What a resolution looks at in this session. -/
def world (s : Session) : World where
  settings := s.settings
  files := s.tree.toFiles
  home := s.home
  mount := s.mount

/-- The entries with another one under a name, or with none. -/
def assign {α : Type} (entries : List (String × α)) (name : String) (value : Option α) :
    List (String × α) :=
  let others := entries.filter fun entry => entry.1 ≠ name
  match value with
  | some value => others ++ [(name, value)]
  | none => others

/-- The answer of a resolution and the session after it. -/
def answer (s : Session) (r : Resolve.Resolution) : Noted Reply × Session :=
  match r.outcome with
  | .ok c => (⟨r.notes, .config c⟩, { s with last := some c })
  | .error failure => (⟨r.notes, .failed failure⟩, { s with last := none })

/-- The answer to one request and the session after it. -/
def step (s : Session) : Request → Noted Reply × Session
  | .resolve explicit =>
    let r := ClusterConfig.resolve s.world s.reader explicit
    { s with reader := r.reader }.answer r
  | .resolveAlone explicit =>
    let settings := { s.settings with properties := [] }
    let w := { s.world with settings, mount := s.usualMount }
    s.answer (ClusterConfig.resolve w .fresh explicit)
  | .give name value =>
    match s.builder.giveNamed name value with
    | .ok builder => (.quiet (.values (Draft.knownValues builder.values)), { s with builder })
    | .error fault => (.quiet (.refused fault), s)
  | .build =>
    let r := s.builder.build s.world s.reader
    { s with reader := r.reader }.answer r
  | .newBuilder => (.quiet .done, { s with builder := .empty })
  | .kubeconfigPath =>
    match Resolve.kubeconfigPath s.settings s.home with
    | .ok path => (.quiet (.path path.toText), s)
    | .error failure => (.quiet (.failed failure), s)
  | .parse path =>
    let (parsed, reader) := Kubeconfig.parse s.tree.toFiles s.reader path (.ofText path)
    let s := { s with reader }
    match parsed.value with
    | .ok found => (⟨parsed.notes, .snapshot found⟩, s)
    | .error fault => (⟨parsed.notes, .notLoaded fault⟩, s)
  | .setProperty name value =>
    let properties := assign s.settings.properties name value
    (.quiet .done, { s with settings := { s.settings with properties } })
  | .setVariable name value =>
    let environ := assign s.settings.environ name value
    (.quiet .done, { s with settings := { s.settings with environ } })
  | .write path content =>
    match s.tree.write? (.ofText path) content with
    | .ok tree => (.quiet .done, { s with tree })
    | .error fault => (.quiet (.fileFault fault), s)
  | .remove path =>
    match s.tree.remove? (.ofText path) with
    | .ok tree => (.quiet .done, { s with tree })
    | .error fault => (.quiet (.fileFault fault), s)

/-- The answers to several requests and the session after them. -/
def run (s : Session) : List Request → List (Noted Reply) × Session
  | [] => ([], s)
  | request :: requests =>
    let (reply, s) := s.step request
    let (replies, s) := s.run requests
    (reply :: replies, s)

@[simp]
theorem run_nil (s : Session) : s.run [] = ([], s) :=
  rfl

end Session

end ClusterConfig
