import ClusterConfig.Text.Quoted
import ClusterConfig.Value.Text

/-!
# JSON documents

Documents with members in their written order, and their two printed forms: on one line, or with
one item a line and two blanks of indentation for each level. On one line a half of a pair is
written as its code; in the other form pairs of halves become characters and other halves stay.

Main definitions:

- `Json`: the documents.
- `Json.compact`, `Json.pretty`: their printed forms.
-/

namespace ClusterConfig

/-- A document. Numbers keep apart integers and numbers written with a point or an exponent. -/
inductive Json where
  | null
  | bool (b : Bool)
  | int (n : Int)
  | float (x : Double)
  | text (s : String)
  | list (items : List Json)
  | object (members : List (String × Json))
  deriving Inhabited, Repr

namespace Json

/-- Numbers are written with the fewest digits that read back. -/
def floatFormat : NumberFormat :=
  { Value.floatFormat with infinity := "Infinity", undefined := "NaN" }

/-- The form of one character in a text: quote, backslash and control characters are escaped. -/
def escape (c : Char) : List Char :=
  if c = '"' then ['\\', '"']
  else if c = '\\' then ['\\', '\\']
  else if c = '\n' then ['\\', 'n']
  else if c = '\r' then ['\\', 'r']
  else if c = '\t' then ['\\', 't']
  else if c.toNat = 8 then ['\\', 'b']
  else if c.toNat = 12 then ['\\', 'f']
  else if c.toNat < 32 then '\\' :: 'u' :: Text.hexDigits 4 c.toNat
  else [c]

/-- The form of one character in a text where halves of pairs are written as their codes. -/
def escapeHalf (c : Char) : List Char :=
  match Text.halfCode? c with
  | some code => '\\' :: 'u' :: Text.hexDigits 4 code
  | none => escape c

/-- A text between quotes, halves of pairs as their codes. -/
def quoted (s : String) : List Char :=
  '"' :: s.toList.flatMap escapeHalf ++ ['"']

/-- A text between quotes, pairs of halves as characters. -/
def quotedJoined (s : String) : List Char :=
  '"' :: (Text.joinHalves s.toList).flatMap escape ++ ['"']

/-- The printed form of a document without parts, given that of texts. -/
def leaf (quote : String → List Char) : Json → List Char
  | null => "null".toList
  | bool b => if b then "true".toList else "false".toList
  | int n => (Value.intText n).toList
  | float x => (floatFormat.render x).toList
  | text s => quote s
  | list _ | object _ => []

/-- A line end and the indentation of a level. -/
def newline (depth : Nat) : List Char :=
  '\n' :: List.replicate (2 * depth) ' '

mutual

/-- The printed form with one item a line, at a level of indentation. -/
def prettyAt (depth : Nat) : Json → List Char
  | list [] => ['[', ']']
  | list (x :: xs) =>
    '[' :: newline (depth + 1) ++ prettyAt (depth + 1) x ++ prettyItems (depth + 1) xs ++
      newline depth ++ [']']
  | object [] => ['\x7b', '\x7d']
  | object ((k, v) :: ms) =>
    '\x7b' :: newline (depth + 1) ++ quotedJoined k ++ [':', ' '] ++ prettyAt (depth + 1) v ++
      prettyMembers (depth + 1) ms ++ newline depth ++ ['\x7d']
  | j => leaf quotedJoined j

/-- The items after the first, each after a comma on a line of its own. -/
def prettyItems (depth : Nat) : List Json → List Char
  | [] => []
  | x :: xs => ',' :: newline depth ++ prettyAt depth x ++ prettyItems depth xs

/-- The members after the first, each after a comma on a line of its own. -/
def prettyMembers (depth : Nat) : List (String × Json) → List Char
  | [] => []
  | (k, v) :: ms =>
    ',' :: newline depth ++ quotedJoined k ++ [':', ' '] ++ prettyAt depth v ++
      prettyMembers depth ms

end

/-- The printed form with one item a line. -/
def pretty (j : Json) : String :=
  String.ofList (prettyAt 0 j)

mutual

/-- The printed form on one line, without blanks. -/
def compactChars : Json → List Char
  | list [] => ['[', ']']
  | list (x :: xs) => '[' :: compactChars x ++ compactItems xs ++ [']']
  | object [] => ['\x7b', '\x7d']
  | object ((k, v) :: ms) =>
    '\x7b' :: quoted k ++ ':' :: compactChars v ++ compactMembers ms ++ ['\x7d']
  | j => leaf quoted j

/-- The items after the first. -/
def compactItems : List Json → List Char
  | [] => []
  | x :: xs => ',' :: compactChars x ++ compactItems xs

/-- The members after the first. -/
def compactMembers : List (String × Json) → List Char
  | [] => []
  | (k, v) :: ms => ',' :: quoted k ++ ':' :: compactChars v ++ compactMembers ms

end

/-- The printed form on one line. -/
def compact (j : Json) : String :=
  String.ofList (compactChars j)

/-- The document under a key of an object; of several members with one key the last counts. -/
def get? (j : Json) (key : String) : Option Json :=
  match j with
  | object ms => (ms.reverse.find? fun member => member.1 == key).map (·.2)
  | _ => none

/-- The text of a key of an object. -/
def keyText : Value → String
  | .null => "null"
  | .bool b => if b then "true" else "false"
  | v => v.asText

mutual

/-- The document that shows a value; a value that has no form of its own is shown by its text. -/
def ofValue : Value → Json
  | .null => null
  | .bool b => bool b
  | .int n => int n
  | .float x => float x
  | .text s => text s
  | .list xs => list (ofItems xs)
  | .tuple xs => list (ofItems xs)
  | .map ms => object (ofMembers ms)
  | .record ms => object (ofMembers ms)
  | .undefined _ => float .undefined
  | .knot _ v => ofValue v
  | v => text v.asText

/-- The documents that show items. -/
def ofItems : List Value → List Json
  | [] => []
  | x :: xs => ofValue x :: ofItems xs

/-- The members that show members. -/
def ofMembers : List (Value × Value) → List (String × Json)
  | [] => []
  | (k, v) :: ms => (keyText k, ofValue v) :: ofMembers ms

end

mutual

/-- The value that a document denotes. -/
def toValue : Json → Value
  | null => .null
  | bool b => .bool b
  | int n => .int n
  | float x => .float x
  | text s => .text s
  | list xs => .list (toItems xs)
  | object ms => .map (toMembers ms)

/-- The values that items denote. -/
def toItems : List Json → List Value
  | [] => []
  | x :: xs => toValue x :: toItems xs

/-- The members that members denote; of several with one key the last value counts. -/
def toMembers : List (String × Json) → List (Value × Value)
  | [] => []
  | (k, v) :: ms =>
    let rest := toMembers ms
    if (Value.lookup (.text k) rest).isSome then rest else (.text k, toValue v) :: rest

end

/-- No character of a text is lost in its printed form. -/
theorem escape_ne_nil (c : Char) : escape c ≠ [] := by
  unfold escape
  repeat' split
  all_goals simp

end Json

end ClusterConfig
