import ClusterConfig.Note
import ClusterConfig.Number.Integer
import ClusterConfig.Text.Upper

/-!
# Settings

Named settings, looked up first among the properties that a program was given and then, under a name
of its own kind, among the variables of the environment. An empty text counts as no setting.

Main definitions:

- `variableName`: the name of a setting in the environment.
- `Settings.get`: the value of a setting.
- `Settings.flag`, `Settings.number`, `Settings.parts`, `Settings.first`: its readings.
- `Settings.field`: the value that the settings supply for a field.
-/

namespace ClusterConfig

/-- The form of one character in the name of a variable: dots and hyphens become underscores. -/
def variableChar (c : Char) : Char :=
  if c = '.' ∨ c = '-' then '_' else c

/-- The name of a setting in the environment: in capital letters, with underscores. -/
def variableName (name : String) : String :=
  String.ofList ((Text.upper name).toList.map variableChar)

/-- The properties of a program and the variables of its environment. -/
structure Settings where
  properties : List (String × Value)
  environ : List (String × String)
  /-- How many digits a whole number may have, if there is a limit. -/
  digitLimit : Option Nat := some Integer.digitLimit

namespace Settings

/-- Whether a value counts as no setting. -/
def isAbsent (v : Value) : Bool :=
  match v with
  | .null => true
  | .text s => s == ""
  | _ => false

/-- The value of a setting, null if there is none. -/
def get (s : Settings) (name : String) : Value :=
  let property := (s.properties.lookup name).getD .null
  if isAbsent property then
    match s.environ.lookup (variableName name) with
    | some text => if text = "" then .null else .text text
    | none => .null
  else property

/-- The truth value of a setting; another value is reported and does not count. -/
def flag (s : Settings) (name : String) : Noted (Option Bool) :=
  let value := s.get name
  if value.isNull then .quiet none
  else
    let word := Value.asWord value.asText
    if word = "true" then .quiet (some true)
    else if word = "false" then .quiet (some false)
    else ⟨[.notFlag name value.asText], none⟩

/-- The whole number of a setting; another value is reported and does not count. -/
def number (s : Settings) (name : String) : Noted (Option Int) :=
  let value := s.get name
  if value.isNull then .quiet none
  else
    match Integer.readWithin? s.digitLimit (Text.trimChars value.asText.toList) with
    | some n => .quiet (some n)
    | none => ⟨[.notNumber name value.asText], none⟩

/-- The parts of a text between commas, without blanks at their ends, blank parts left out. -/
def splitParts (s : String) : List String :=
  ((s.toList.splitOn ',').map Text.trimChars).filter (fun part => !part.isEmpty)
    |>.map String.ofList

/-- The parts of a setting between commas, if there are any. -/
def parts (s : Settings) (name : String) : Option (List String) :=
  let value := s.get name
  if value.isNull then none
  else
    let items := splitParts value.asText
    if items.isEmpty then none else some items

/-- The value of the first of several settings that has one, null if none has. -/
def first (s : Settings) : List String → Value
  | [] => .null
  | name :: names => (s.get name).orElse (s.first names)

/-- A list of texts as a value. -/
def partsValue : Option (List String) → Value
  | some items => .list (items.map .text)
  | none => .null

/-- A truth value as a value. -/
def flagValue : Option Bool → Value
  | some b => .bool b
  | none => .null

/-- A whole number as a value. -/
def numberValue : Option Int → Value
  | some n => .int n
  | none => .null

/-- The value that a reading of the first of several settings gives. -/
def readAs (s : Settings) (reading : Reading) (names : List String) : Noted Value :=
  match reading, names with
  | .plain, names => .quiet (s.first names)
  | .parts, name :: _ => .quiet (partsValue (s.parts name))
  | .flag, name :: _ => (s.flag name).map flagValue
  | .number, name :: _ => (s.number name).map numberValue
  | _, [] => .quiet .null

/-- The value that the settings supply for a field, null if there is none. -/
def field (s : Settings) (f : Field) : Noted Value :=
  s.readAs f.reading f.settings

/-- The setting that says whether a service account is looked for. -/
def tryServiceAccount : String := "kubernetes.auth.tryServiceAccount"

/-- The setting that says whether a kubeconfig file is looked for. -/
def tryKubeconfig : String := "kubernetes.auth.tryKubeConfig"

/-- The setting that names the kubeconfig file. -/
def kubeconfig : String := "kubeconfig"

/-- The name of every setting. -/
def names : List String :=
  Field.all.flatMap Field.settings ++ [tryServiceAccount, tryKubeconfig, kubeconfig]

@[simp]
theorem first_nil (s : Settings) : s.first [] = .null :=
  rfl

@[simp]
theorem first_cons (s : Settings) (name : String) (names : List String) :
    s.first (name :: names) = (s.get name).orElse (s.first names) :=
  rfl

/-- A property that is neither null nor empty hides the environment. -/
theorem get_of_property {s : Settings} {name : String} {v : Value}
    (h : s.properties.lookup name = some v) (hv : isAbsent v = false) : s.get name = v := by
  simp [get, h, hv]

end Settings

end ClusterConfig
