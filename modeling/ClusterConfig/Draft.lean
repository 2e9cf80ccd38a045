import ClusterConfig.Config

/-!
# Drafts

A configuration in the making. Sources fill it one after the other, and a field that one source has
filled is never overwritten by a later one.

Main definitions:

- `Draft`: a configuration in the making.
- `Draft.fill`: fills absent fields from candidates and says which were filled.
- `Draft.fillNamed`: the same for candidates under names, which may be unknown.
- `Draft.ofExplicit`: the draft that a caller's own values make.
- `Draft.freeze?`: the finished configuration.
-/

namespace ClusterConfig

/-- A configuration in the making; null stands for a field that nothing has filled yet. -/
structure Draft where
  values : Field → Value
  messages : List (Int × String)
  /-- The spare names that were filled. -/
  spares : List String := []

namespace Draft

/-- The draft with nothing in it. -/
def empty : Draft where
  values := fun _ => .null
  messages := []

/-- Whether a field is filled. -/
def isSet (d : Draft) (f : Field) : Bool :=
  !(d.values f).isNull

/-- The draft with a field given a value. -/
def set (d : Draft) (f : Field) (v : Value) : Draft :=
  { d with values := fun g => if g = f then v else d.values g }

/-- Fills absent fields from candidates, in order. Null candidates and candidates for filled fields
count for nothing. The result names the fields that were filled. -/
def fill (d : Draft) : List (Field × Value) → Draft × List Field
  | [] => (d, [])
  | (f, v) :: candidates =>
    if v.isNull || d.isSet f then d.fill candidates
    else
      let rest := (d.set f v).fill candidates
      (rest.1, f :: rest.2)

/-- What a name stands for in a draft. -/
inductive Slot where
  /-- A field. -/
  | field (f : Field)
  /-- Something of the draft that is no field and is never absent. -/
  | taken
  /-- Something of the draft that is no field, is absent at first and can be filled. -/
  | spare
  /-- Something of the draft that is no field, is absent and stays so. -/
  | closed
  /-- Nothing. -/
  | unknown
  deriving DecidableEq, Repr

/-- The names that stand for something in a draft without being fields: what drafts have of their
own, and then what every record has. -/
def takenNames : List String :=
  [Config.messagesName, "is_set", "freeze", "from_explicit", "__annotations__", "__class__",
    "__dataclass_fields__", "__dataclass_params__", "__delattr__", "__dict__", "__dir__", "__doc__",
    "__eq__", "__format__", "__ge__", "__getattribute__", "__getstate__", "__gt__", "__init__",
    "__init_subclass__", "__le__", "__lt__", "__match_args__", "__module__", "__ne__", "__new__",
    "__reduce__", "__reduce_ex__", "__repr__", "__setattr__", "__sizeof__", "__str__",
    "__subclasshook__"]

/-- The names of what is absent at first and can be filled. -/
def spareNames : List String :=
  ["__hash__"]

/-- The names of what is absent and stays so. -/
def closedNames : List String :=
  ["__weakref__"]

/-- What a name stands for. -/
def slot (name : String) : Slot :=
  match Field.ofName? name with
  | some f => .field f
  | none =>
    if takenNames.contains name then .taken
    else if spareNames.contains name then .spare
    else if closedNames.contains name then .closed
    else .unknown

/-- Whether a name stands for something that is there; none if it stands for nothing. -/
def isSetNamed? (d : Draft) (name : String) : Option Bool :=
  match slot name with
  | .field f => some (d.isSet f)
  | .taken => some true
  | .spare => some (d.spares.contains name)
  | .closed => some false
  | .unknown => none

/-- Gives what a name stands for a value, if it stands for something that can be filled. -/
def setNamed? (d : Draft) (name : String) (v : Value) : Option Draft :=
  match slot name with
  | .field f => some (d.set f v)
  | .spare => some { d with spares := name :: d.spares }
  | _ => none

/-- Fills absent fields from candidates under names, in order. A candidate that is not null and
whose name stands for nothing that can be filled ends the filling; what was filled before stays. -/
def fillNamed (d : Draft) : List (String × Value) → Draft × Option (List String)
  | [] => (d, some [])
  | (name, v) :: candidates =>
    if v.isNull || d.isSetNamed? name = some true then d.fillNamed candidates
    else
      match d.setNamed? name v with
      | none => (d, none)
      | some d =>
        let rest := d.fillNamed candidates
        (rest.1, rest.2.map (name :: ·))

/-- The names among a caller's values that no field has: each once, in the order of their
characters. -/
def unknownNames (explicit : List (String × Value)) : List String :=
  (((explicit.map (·.1)).filter fun name => (Field.ofName? name).isNone).eraseDups).mergeSort
    (· ≤ ·)

/-- A caller's values for known fields. -/
def knownValues (explicit : List (String × Value)) : List (Field × Value) :=
  explicit.filterMap fun (name, v) => (Field.ofName? name).map (·, v)

/-- The draft that a caller's own values make, or the names that no field has. -/
def ofExplicit (explicit : List (String × Value)) : Except (List String) Draft :=
  let unknown := unknownNames explicit
  if unknown.isEmpty then .ok (empty.fill (knownValues explicit)).1 else .error unknown

/-- The draft with a diagnostic for a status, in the place of any other. -/
def setMessage (d : Draft) (status : Int) (text : String) : Draft :=
  { d with
    messages :=
      if (d.messages.lookup status).isSome then
        d.messages.map fun m => if m.1 = status then (status, text) else m
      else d.messages ++ [(status, text)] }

/-- The draft with a diagnostic for a status, unless it has one already. -/
def addMessage (d : Draft) (status : Int) (text : String) : Draft :=
  if (d.messages.lookup status).isSome then d
  else { d with messages := d.messages ++ [(status, text)] }

/-- The protocols of a draft as a list; none if they are no collection. -/
def protocols? (d : Draft) : Option Value :=
  let protocols := d.values .enabledProtocols
  if protocols.isTrue then protocols.elements?.map .list else some (.list [])

/-- The finished configuration; none if the protocols are no collection. -/
def freeze? (d : Draft) : Option Config :=
  d.protocols?.map fun protocols =>
    { values := (d.set .enabledProtocols protocols).values, messages := d.messages }

/-! ## What each operation does to the fields -/

@[simp]
theorem values_empty (f : Field) : empty.values f = .null :=
  rfl

@[simp]
theorem isSet_eq_true {d : Draft} {f : Field} : d.isSet f = true ↔ d.values f ≠ .null := by
  simp [isSet, ← Value.isNull_iff]

@[simp]
theorem isSet_eq_false {d : Draft} {f : Field} : d.isSet f = false ↔ d.values f = .null := by
  simp [isSet]

@[simp]
theorem values_set_self (d : Draft) (f : Field) (v : Value) : (d.set f v).values f = v := by
  simp [set]

theorem values_set_of_ne (d : Draft) {f g : Field} (h : g ≠ f) (v : Value) :
    (d.set f v).values g = d.values g := by
  simp [set, h]

@[simp]
theorem messages_set (d : Draft) (f : Field) (v : Value) : (d.set f v).messages = d.messages :=
  rfl

@[simp]
theorem fill_nil (d : Draft) : d.fill [] = (d, []) :=
  rfl

/-- Filling leaves the diagnostics alone. -/
@[simp]
theorem messages_fill (d : Draft) (candidates : List (Field × Value)) :
    (d.fill candidates).1.messages = d.messages := by
  induction candidates generalizing d with
  | nil => rfl
  | cons candidate candidates ih =>
    obtain ⟨f, v⟩ := candidate
    simp only [fill]
    split
    · exact ih d
    · exact ih (d.set f v)

@[simp]
theorem values_addMessage (d : Draft) (status : Int) (text : String) :
    (d.addMessage status text).values = d.values := by
  unfold addMessage
  split <;> rfl

end Draft

end ClusterConfig
