import ClusterConfig.Resolve

/-!
# Builders

A caller's values for the fields of a configuration, collected one by one. The last value given for
a field counts.

Main definitions:

- `ConfigBuilder`: the values collected so far.
- `ConfigBuilder.give`: one more value.
- `ConfigBuilder.build`: the configuration that the values make.
-/

namespace ClusterConfig

/-- The values collected so far under the names that they were given for, in the order in which the
names were first given. -/
structure ConfigBuilder where
  values : List (String × Value)
  deriving Inhabited

/-- Why a value is not accepted. -/
inductive GiveFault where
  /-- There is no such field. -/
  | unknownField
  /-- The protocols are no collection. -/
  | notCollection
  deriving DecidableEq, Repr

namespace ConfigBuilder

/-- No values. -/
def empty : ConfigBuilder :=
  ⟨[]⟩

/-- The value as it is kept for a field: protocols are taken apart into a list. -/
def accept (f : Field) (v : Value) : Except GiveFault Value :=
  match f with
  | .enabledProtocols =>
    match v.elements? with
    | some items => .ok (.list items)
    | none => .error .notCollection
  | _ => .ok v

/-- The values with another one under a name, in the place of any other. -/
def put (name : String) (v : Value) : List (String × Value) → List (String × Value)
  | [] => [(name, v)]
  | (other, w) :: values =>
    if other = name then (name, v) :: values else (other, w) :: put name v values

/-- The values with one more. -/
def give (b : ConfigBuilder) (f : Field) (v : Value) : Except GiveFault ConfigBuilder :=
  match accept f v with
  | .ok v => .ok ⟨put f.name v b.values⟩
  | .error fault => .error fault

/-- The values with one more, for the field of the given name. -/
def giveNamed (b : ConfigBuilder) (name : String) (v : Value) : Except GiveFault ConfigBuilder :=
  match Field.ofName? name with
  | some f => b.give f v
  | none => .error .unknownField

/-- The configuration that the values make. -/
def build (b : ConfigBuilder) (w : World) (reader : Yaml.Reader) : Resolve.Resolution :=
  resolve w reader b.values

/-- The last value given under a name is the one that is kept. -/
@[simp]
theorem lookup_put_self (name : String) (v : Value) (values : List (String × Value)) :
    (put name v values).lookup name = some v := by
  induction values with
  | nil => simp [put]
  | cons entry values ih =>
    obtain ⟨other, w⟩ := entry
    by_cases h : other = name
    · simp [put, h]
    · have h' : (name == other) = false := by simpa using fun h'' => h h''.symm
      simp [put, h, List.lookup_cons, h', ih]

/-- A value given under one name changes no other. -/
theorem lookup_put_of_ne {name other : String} (h : other ≠ name) (v : Value)
    (values : List (String × Value)) : (put name v values).lookup other = values.lookup other := by
  have h' : (other == name) = false := by simpa using h
  induction values with
  | nil => simp [put, List.lookup_cons, h']
  | cons entry values ih =>
    obtain ⟨third, w⟩ := entry
    by_cases hthird : third = name
    · subst hthird
      simp [put, List.lookup_cons, h']
    · simp [put, hthird, List.lookup_cons, ih]

end ConfigBuilder

end ClusterConfig
