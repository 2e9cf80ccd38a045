import ClusterConfig.Number.Shortest
import ClusterConfig.Text.Blank
import ClusterConfig.Text.Quoted
import ClusterConfig.Value

/-!
# Texts of values

The text of a value where a setting or a message needs one. A text stands for itself on the outside
and is quoted inside a larger value, and a time is spelled out there. A collection is left out where
it stands inside itself.

Main definitions:

- `Value.inner`: the text of a value inside another value.
- `Value.isWritable`: whether no number in a value is too long for a text.
- `Value.asText`: the text of a value that stands alone.
- `Value.asFlag?`: the truth value that a value spells.
-/

namespace ClusterConfig.Value

open ClusterConfig.Text

/-- Numbers are positional from four zeros after the point up to sixteen digits before it. -/
def floatFormat : NumberFormat where
  lastPositional := 15
  firstPositional := -4
  wholeMark := ".0"
  exponentWidth := 2
  infinity := "inf"
  undefined := "nan"

/-- The text of an integer. -/
def intText (n : Int) : String :=
  (if n < 0 then "-" else "") ++ String.ofList (Nat.toDigits 10 n.natAbs)

/-- Texts between commas. -/
def commas (parts : List String) : String :=
  String.intercalate ", " parts

/-- The form of one byte between the given quotes. -/
def escapeByte (quote : Char) (b : UInt8) : List Char :=
  let c := Char.ofNat b.toNat
  if c == quote || c == '\\' then ['\\', c]
  else if c == '\n' then ['\\', 'n']
  else if c == '\r' then ['\\', 'r']
  else if c == '\t' then ['\\', 't']
  else if 0x20 ≤ b.toNat ∧ b.toNat < 0x7F then [c]
  else '\\' :: 'x' :: hexDigits 2 b.toNat

/-- Bytes between quotes, with a mark in front. -/
def bytesText (bs : List UInt8) : String :=
  let quote := quoteFor (bs.map fun b => Char.ofNat b.toNat)
  String.ofList ('b' :: quote :: bs.flatMap (escapeByte quote) ++ [quote])

/-- A day spelled out. -/
def dayCall (d : Day) : String :=
  "datetime.date(" ++ commas ([d.year, d.month, d.day].map Nat.repr) ++ ")"

/-- A distance from universal time spelled out: whole days are counted apart. -/
def distanceCall (seconds : Int) : String :=
  let days := seconds / 86400
  let rest := seconds % 86400
  let parts := (if days = 0 then [] else ["days=" ++ intText days]) ++
    (if rest = 0 then [] else ["seconds=" ++ intText rest])
  "datetime.timedelta(" ++ (if parts.isEmpty then "0" else commas parts) ++ ")"

/-- A moment spelled out: zero microseconds, and then zero seconds, are left out. -/
def momentCall (m : Moment) : String :=
  let clock := [m.day.year, m.day.month, m.day.day, m.hour, m.minute] ++
    (if m.micro ≠ 0 then [m.second, m.micro] else if m.second ≠ 0 then [m.second] else [])
  let zone := match m.zone with
    | some z => [String.append "tzinfo=datetime.timezone("
        (commas [distanceCall z.seconds, quoted z.name] ++ ")")]
    | none => []
  "datetime.datetime(" ++ commas (clock.map Nat.repr ++ zone) ++ ")"

/-- What is written for a collection inside itself. -/
def ellipsis : Value → String
  | list _ => "[...]"
  | map _ => "\x7b...\x7d"
  | _ => "..."

mutual

/-- The text of a value inside others. Of the collections around it that hold themselves it is known
what is written for them. -/
def innerIn (around : List (Nat × String)) : Value → String
  | null => "None"
  | bool b => if b then "True" else "False"
  | int n => intText n
  | float x => floatFormat.render x
  | text s => quoted s
  | date d => dayCall d
  | moment m => momentCall m
  | bytes bs => bytesText bs
  | list xs => "[" ++ commas (innerItems around xs) ++ "]"
  | tuple [x] => "(" ++ innerIn around x ++ ",)"
  | tuple xs => "(" ++ commas (innerItems around xs) ++ ")"
  | map ms => "\x7b" ++ commas (innerMembers around ms) ++ "\x7d"
  | record [] => "ordereddict()"
  | record ms => "ordereddict([" ++ commas (innerPairs around ms) ++ "])"
  | set [] => "set()"
  | set xs => "\x7b" ++ commas (innerItems around xs) ++ "\x7d"
  | undefined _ => floatFormat.undefined
  | knot mark v =>
    match around.lookup mark with
    | some short => short
    | none => innerIn ((mark, ellipsis v) :: around) v
  | again mark => (around.lookup mark).getD (ellipsis null)

/-- The texts of items. -/
def innerItems (around : List (Nat × String)) : List Value → List String
  | [] => []
  | x :: xs => innerIn around x :: innerItems around xs

/-- The texts of members, key and value with a colon between them. -/
def innerMembers (around : List (Nat × String)) : List (Value × Value) → List String
  | [] => []
  | (k, v) :: ms => (innerIn around k ++ ": " ++ innerIn around v) :: innerMembers around ms

/-- The texts of members as pairs. -/
def innerPairs (around : List (Nat × String)) : List (Value × Value) → List String
  | [] => []
  | (k, v) :: ms =>
    ("(" ++ innerIn around k ++ ", " ++ innerIn around v ++ ")") :: innerPairs around ms

end

/-- The text of a value inside another value. -/
def inner (v : Value) : String :=
  innerIn [] v

/-! ## Numbers that are too long -/

/-- The least number that has more digits than a text of it may have. -/
def writingLimit : Nat :=
  Nat.pow 10 Integer.digitLimit

mutual

/-- Whether no number in a value is too long for a text. -/
def isWritable : Value → Bool
  | int n => n.natAbs < writingLimit
  | list xs | tuple xs | set xs => areWritable xs
  | map ms | record ms => areWritableMembers ms
  | knot _ v => isWritable v
  | _ => true

/-- Whether no number in items is too long for a text. -/
def areWritable : List Value → Bool
  | [] => true
  | x :: xs => isWritable x && areWritable xs

/-- Whether no number in members is too long for a text. -/
def areWritableMembers : List (Value × Value) → Bool
  | [] => true
  | (k, v) :: ms => isWritable k && isWritable v && areWritableMembers ms

end

/-! ## Values that stand alone -/

/-- The text of a value that stands alone. -/
def asText : Value → String
  | text s => s
  | date d => Calendar.dayText d
  | moment m => Calendar.momentText m
  | v => inner v

/-- The text of a value, none for null. -/
def asText? : Value → Option String
  | null => none
  | v => some v.asText

/-- A text without the blanks at its ends, in small letters. Only the letters of the Latin alphabet
have to be mapped: no other character has one of them as its small form, except the kelvin sign,
and no word that is looked for holds its letter. -/
def asWord (s : String) : String :=
  String.ofList ((trimChars s.toList).map Char.toLower)

/-- The truth value that a value spells: `true`, `yes` or `1`, and `false`, `no` or `0`. -/
def asFlag? : Value → Option Bool
  | null => none
  | bool b => some b
  | v =>
    let word := asWord v.asText
    if word = "true" ∨ word = "yes" ∨ word = "1" then some true
    else if word = "false" ∨ word = "no" ∨ word = "0" then some false
    else none

@[simp]
theorem asText_text (s : String) : asText (text s) = s :=
  rfl

@[simp]
theorem asText?_eq_none_iff {v : Value} : v.asText? = none ↔ v = null := by
  cases v <;> simp [asText?]

/-- The name of a value's type. -/
def typeName : Value → String
  | null => "NoneType"
  | bool _ => "bool"
  | int _ => "int"
  | float _ => "float"
  | text _ => "str"
  | date _ => "date"
  | moment _ => "datetime"
  | bytes _ => "bytes"
  | list _ => "list"
  | tuple _ => "tuple"
  | map _ => "dict"
  | record _ => "ordereddict"
  | set _ => "set"
  | undefined _ => "float"
  | knot _ v => v.typeName
  | again _ => "list"

end ClusterConfig.Value
