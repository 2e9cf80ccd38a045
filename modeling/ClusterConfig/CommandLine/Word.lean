import ClusterConfig.CommandLine.Switch
import ClusterConfig.Text.Digit
import ClusterConfig.Text.Quoted

/-!
# Words of a command line

What each argument of a command line is taken for, before any of them has an effect. A switch may be
cut short as long as only one spelling starts that way, a value may follow it after an equals sign,
and switches of one letter may share a hyphen. After two hyphens that stand alone no argument is a
switch.

Main definitions:

- `Word`: what an argument can be.
- `Misuse`: what can be wrong with a command line.
- `Scope.words`: the arguments of a part, each with what it is taken for.
-/

namespace ClusterConfig

namespace CommandLine

/-- What an argument is taken for. -/
inductive Word where
  /-- No switch. -/
  | plain
  /-- Two hyphens that stand alone. -/
  | separator
  /-- One switch without a value, or several after one hyphen. -/
  | flags (switches : List Switch)
  /-- A switch whose value has to follow. -/
  | wanting (s : Switch)
  /-- A switch with its value. -/
  | assigned (s : Switch) (value : String)
  /-- A switch without a value that is given one. -/
  | overfull (s : Switch) (value : String)
  /-- A switch that is not known here. -/
  | unknown
  deriving DecidableEq, Repr

/-- What can be wrong with a command line. -/
inductive Misuse where
  /-- A shortened switch can be several. -/
  | ambiguous (argument : String) (candidates : List String)
  /-- A switch needs a value that is not there. -/
  | noValue (s : Switch)
  /-- A switch without a value is given one. -/
  | unwantedValue (s : Switch) (value : String)
  /-- There is no such command. -/
  | noCommand (name : String)
  /-- A status is no whole number. -/
  | notStatus (argument : String)
  /-- There is no status. -/
  | noStatus
  /-- Arguments that have no meaning. -/
  | unrecognized (arguments : List String)
  deriving DecidableEq, Repr

namespace Misuse

/-- The wording of what is wrong. -/
def message : Misuse → String
  | ambiguous argument candidates =>
    "ambiguous option: " ++ argument ++ " could match " ++ ", ".intercalate candidates
  | noValue s => "argument " ++ s.title ++ ": expected one argument"
  | unwantedValue s value =>
    "argument " ++ s.title ++ ": ignored explicit argument " ++ Text.quoted value
  | noCommand name =>
    "argument Command: invalid choice: " ++ Text.quoted name ++ " (choose from " ++
      ", ".intercalate (Scope.commands.map fun command => Text.quoted command.1) ++ ")"
  | notStatus argument => "argument status: invalid int value: " ++ Text.quoted argument
  | noStatus => "the following arguments are required: status"
  | unrecognized arguments => "unrecognized arguments: " ++ " ".intercalate arguments

end Misuse

/-- Decimal digits, at least one, with at most one line end after them. -/
def areDigits (cs : List Char) : Bool :=
  let body := if cs.getLast? = some '\n' then cs.dropLast else cs
  !body.isEmpty && body.all fun c => (Text.digit? c).isSome

/-- Whether an argument after a hyphen is a number, which is no switch. -/
def isNumber (cs : List Char) : Bool :=
  match cs.dropWhile fun c => (Text.digit? c).isSome with
  | '.' :: places => areDigits places
  | _ => areDigits cs

namespace Scope

/-- The switch of a spelling. -/
def find? (scope : Scope) (spelling : String) : Option Switch :=
  scope.spellings.lookup spelling

/-- What a spelling that stands alone is taken for. -/
def alone (s : Switch) : Word :=
  if s.takesValue then .wanting s else .flags [s]

/-- What letters that share the hyphen of a switch are taken for. Each of them has to be a switch as
well: from the first that is none on they would be the value of the switch before. No switch of one
letter has a value. -/
def cluster (scope : Scope) (before : List Switch) (s : Switch) : List Char → Word
  | [] => .flags (before ++ [s])
  | letter :: cs =>
    match scope.find? (String.ofList ['-', letter]) with
    | some next => scope.cluster (before ++ [s]) next cs
    | none => .overfull s (String.ofList (letter :: cs))

/-- Whether a spelling is a hyphen and a letter. -/
def isLetter (spelling : List Char) : Bool :=
  spelling.length == 2

/-- What a spelling with a value after an equals sign is taken for. After a letter the value is
taken for more letters. -/
def withValue (scope : Scope) (spelling : List Char) (s : Switch) (value : List Char) : Word :=
  if s.takesValue then .assigned s (String.ofList value)
  else if isLetter spelling && !value.isEmpty then scope.cluster [] s value
  else .overfull s (String.ofList value)

/-- The part of a text before its first equals sign, and the part after it if there is one. -/
def splitEquals (cs : List Char) : List Char × Option (List Char) :=
  match cs.dropWhile (· ≠ '=') with
  | _ :: value => (cs.takeWhile (· ≠ '='), some value)
  | [] => (cs, none)

/-- The spellings that start in a given way, each with its switch. -/
def candidates (scope : Scope) (start : List Char) : List (String × Switch) :=
  scope.spellings.filter fun entry => start.isPrefixOf entry.1.toList

/-- What an argument is taken for that spells no switch. -/
def strange (argument : String) : Word :=
  if isNumber (argument.toList.drop 1) || argument.toList.contains ' ' then .plain else .unknown

/-- What an argument is taken for that is no whole spelling. -/
def shortened (scope : Scope) (argument : String) : Except Misuse Word :=
  match argument.toList with
  | '-' :: '-' :: cs =>
    match splitEquals ('-' :: '-' :: cs) with
    | (start, value) =>
      match scope.candidates start, value with
      | [], _ => .ok (strange argument)
      | [(_, s)], none => .ok (alone s)
      | [(spelling, s)], some value => .ok (scope.withValue spelling.toList s value)
      | many, _ => .error (.ambiguous argument (many.map (·.1)))
  | '-' :: letter :: cs =>
    match scope.find? (String.ofList ['-', letter]) with
    | some s => .ok (scope.cluster [] s cs)
    | none => .ok (strange argument)
  | _ => .ok (strange argument)

/-- What an argument is taken for that starts with a hyphen and goes on. -/
def hyphenWord (scope : Scope) (argument : String) : Except Misuse Word :=
  match scope.find? argument with
  | some s => .ok (alone s)
  | none =>
    match splitEquals argument.toList with
    | (spelling, some value) =>
      match scope.find? (String.ofList spelling) with
      | some s => .ok (scope.withValue spelling s value)
      | none => scope.shortened argument
    | (_, none) => scope.shortened argument

/-- Whether an argument starts with a hyphen and goes on. -/
def startsLikeSwitch : List Char → Bool
  | '-' :: _ :: _ => true
  | _ => false

/-- What an argument is taken for where switches may stand. -/
def word (scope : Scope) (argument : String) : Except Misuse Word :=
  if startsLikeSwitch argument.toList then scope.hyphenWord argument else .ok .plain

/-- The arguments of a part, each with what it is taken for. -/
def words (scope : Scope) : List String → Except Misuse (List (String × Word))
  | [] => .ok []
  | argument :: arguments =>
    if argument = "--" then
      .ok ((argument, .separator) :: arguments.map fun later => (later, .plain))
    else
      match scope.word argument, scope.words arguments with
      | .ok word, .ok words => .ok ((argument, word) :: words)
      | .error misuse, _ => .error misuse
      | .ok _, .error misuse => .error misuse

/-- An argument that does not start like a switch is none. -/
theorem word_of_not_startsLikeSwitch {scope : Scope} {argument : String}
    (h : startsLikeSwitch argument.toList = false) : scope.word argument = .ok .plain := by
  simp [word, h]

/-- A whole spelling is taken for its switch. -/
theorem hyphenWord_of_find? {scope : Scope} {argument : String} {s : Switch}
    (h : scope.find? argument = some s) :
    scope.hyphenWord argument = .ok (alone s) := by
  simp [hyphenWord, h]

/-- The parts around an equals sign make up the whole. -/
theorem splitEquals_append (name value : List Char) (h : '=' ∉ name) :
    splitEquals (name ++ '=' :: value) = (name, some value) := by
  have hall : ∀ c ∈ name, (decide (c ≠ '=')) = true := by
    intro c hc
    have : c ≠ '=' := fun heq => h (heq ▸ hc)
    simpa using this
  rw [splitEquals, List.dropWhile_append_of_pos hall, List.takeWhile_append_of_pos hall]
  simp

/-- After two hyphens that stand alone no argument is a switch. -/
theorem words_separator (scope : Scope) (arguments : List String) :
    scope.words ("--" :: arguments) =
      .ok (("--", .separator) :: arguments.map fun later => (later, .plain)) := by
  simp [words]

end Scope

end CommandLine

end ClusterConfig
