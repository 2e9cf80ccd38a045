import ClusterConfig.Field
import ClusterConfig.Value.Text

/-!
# Notes

What the library reports while it works. A note is kept as what it says; its level, the part of the
library it comes from and its wording are functions of that.

Main definitions:

- `Note`: what can be reported.
- `Note.level`, `Note.origin`, `Note.message`: how it is shown.
- `Noted`: a value together with the notes that were made for it.
-/

namespace ClusterConfig

/-- How much a note matters. -/
inductive Level where
  | debug
  | warning
  | error
  deriving DecidableEq, Repr

namespace Level

/-- The rank of a level, greater for what matters more. -/
def rank : Level → Nat
  | debug => 10
  | warning => 30
  | error => 40

/-- The name of a level. -/
def name : Level → String
  | debug => "DEBUG"
  | warning => "WARNING"
  | error => "ERROR"

end Level

/-- What the library reports. -/
inductive Note where
  /-- A setting that should be a truth value has another one. -/
  | notFlag (setting value : String)
  /-- A setting that should be a whole number has another value. -/
  | notNumber (setting value : String)
  /-- There is no token file. -/
  | noToken (path : String)
  /-- The token file gives no text. -/
  | tokenUnreadable (path : String)
  /-- Fields that the settings supplied. -/
  | seeded (fields : List Field)
  /-- No service account is mounted. -/
  | noServiceAccount
  /-- The token of the service account is used. -/
  | tokenUsed
  /-- There is no kubeconfig file. -/
  | noKubeconfig (path : String)
  /-- The kubeconfig file cannot be used, for the given reason. -/
  | kubeconfigUnusable (path reason : String)
  /-- The current context of the kubeconfig file has no cluster. -/
  | noCluster (path : String)
  /-- The kubeconfig file has no current context. -/
  | noContext (path : String)
  /-- Fields that the context of the given name supplied. -/
  | supplied (context : Option String) (fields : List Field)
  deriving DecidableEq, Repr

namespace Note

/-- How much a note matters. -/
def level : Note → Level
  | notFlag .. | notNumber .. => .warning
  | kubeconfigUnusable .. => .error
  | _ => .debug

/-- The part of the library that a note comes from. -/
def origin : Note → String
  | notFlag .. | notNumber .. => "kubeconf.environment"
  | noToken _ | tokenUnreadable _ => "kubeconf.credentials"
  | noContext _ => "kubeconf.kubeconfig"
  | _ => "kubeconf.resolver"

/-- The names of fields, between commas. -/
def fieldNames (fields : List Field) : String :=
  Value.commas (fields.map Field.name)

/-- The wording of a note. -/
def message : Note → String
  | notFlag setting value =>
    "Ignoring non-boolean value '" ++ value ++ "' for setting '" ++ setting ++ "'"
  | notNumber setting value =>
    "Ignoring non-integer value '" ++ value ++ "' for setting '" ++ setting ++ "'"
  | noToken path => "No service account token at " ++ path
  | tokenUnreadable path => "Service account token at " ++ path ++ " unreadable"
  | seeded fields => "Seeded from environment: " ++ fieldNames fields
  | noServiceAccount => "No service account mounted"
  | tokenUsed => "Using service account token"
  | noKubeconfig path => "No kubeconfig at " ++ path
  | kubeconfigUnusable path reason =>
    "Could not load kube config file from " ++ path ++ ": " ++ reason
  | noCluster path => "Kubeconfig " ++ path ++ ": current context has no cluster"
  | noContext path => "Kubeconfig " ++ path ++ " has no resolvable current context"
  | supplied context fields =>
    "Kubeconfig context '" ++ context.getD "None" ++ "' supplied: " ++
      (if fields.isEmpty then "nothing" else fieldNames fields)

/-- Whether a note is shown when everything from the given level on is. -/
def isShownFrom (least : Level) (n : Note) : Bool :=
  least.rank ≤ n.level.rank

/-- From the lowest level on, every note is shown. -/
@[simp]
theorem isShownFrom_debug (n : Note) : n.isShownFrom .debug = true := by
  cases n <;> rfl

end Note

/-- A value together with the notes that were made for it. -/
structure Noted (α : Type) where
  notes : List Note
  value : α

namespace Noted

variable {α β : Type}

/-- A value without notes. -/
def quiet (a : α) : Noted α :=
  ⟨[], a⟩

/-- Another value with the same notes. -/
def map (f : α → β) (x : Noted α) : Noted β :=
  ⟨x.notes, f x.value⟩

@[simp]
theorem notes_quiet (a : α) : (quiet a).notes = [] :=
  rfl

@[simp]
theorem value_quiet (a : α) : (quiet a).value = a :=
  rfl

@[simp]
theorem notes_map (f : α → β) (x : Noted α) : (x.map f).notes = x.notes :=
  rfl

@[simp]
theorem value_map (f : α → β) (x : Noted α) : (x.map f).value = f x.value :=
  rfl

end Noted

end ClusterConfig
