import ClusterConfig.Field

/-!
# Client configurations

A finished configuration: a value for every field, null where nothing supplied one, and the
diagnostics for answers of the server that a client may meet.

Main definitions:

- `Config`: the configurations.
- `Config.message`: the diagnostic for a status.
- `Config.shown`: the value of a field as it is shown, secrets masked if wanted.
- `Config.toRecord`: the whole configuration under the names of its fields.
-/

namespace ClusterConfig

/-- A finished configuration. -/
structure Config where
  values : Field → Value
  messages : List (Int × String)

/-- What is shown in the place of a secret. -/
def mask : String := "***"

namespace Config

/-- The name under which the diagnostics are shown. -/
def messagesName : String := "error_messages"

/-- The diagnostic for a status, if there is one. -/
def message (c : Config) (status : Int) : Option String :=
  c.messages.lookup status

/-- The value of a field as it is shown; with `masked`, a secret that is there is hidden. -/
def shown (c : Config) (masked : Bool) (f : Field) : Value :=
  if masked && f.isSecret && !(c.values f).isNull then .text mask else c.values f

/-- The diagnostics as a mapping from statuses. -/
def messagesValue (c : Config) : Value :=
  .map (c.messages.map fun m => (.int m.1, .text m.2))

/-- The configuration under the names of its fields, diagnostics last. -/
def toRecord (c : Config) (masked : Bool) : List (String × Value) :=
  (Field.all.map fun f => (f.name, c.shown masked f)) ++ [(messagesName, c.messagesValue)]

/-- Without masking every field is shown as it is. -/
@[simp]
theorem shown_false (c : Config) (f : Field) : c.shown false f = c.values f := by
  simp [shown]

/-- A field that is no secret is shown as it is. -/
theorem shown_of_not_secret (c : Config) (masked : Bool) {f : Field} (h : f.isSecret = false) :
    c.shown masked f = c.values f := by
  simp [shown, h]

/-- Masking neither makes a field absent nor supplies one. -/
@[simp]
theorem shown_eq_null_iff (c : Config) (masked : Bool) (f : Field) :
    c.shown masked f = .null ↔ c.values f = .null := by
  unfold shown
  split
  · rename_i h
    have : c.values f ≠ .null := by
      intro hnull
      simp [hnull, Value.isNull] at h
    simp [this]
  · rfl

end Config

end ClusterConfig
