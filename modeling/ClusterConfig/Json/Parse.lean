import ClusterConfig.Json

/-!
# Reading JSON

The document that a text denotes. Every reader takes characters and returns what it read together
with the characters after it.

Main definitions:

- `Json.readText?`: the rest of a text after its opening quote.
- `Json.readNumber?`: a number.
- `Json.parse?`: a whole document.
-/

namespace ClusterConfig.Json

/-- The blanks between the parts of a document. -/
def isSpace (c : Char) : Bool :=
  c == ' ' || c == '\n' || c == '\r' || c == '\t'

/-- The characters from the first that is not a blank on. -/
def skipSpace (cs : List Char) : List Char :=
  cs.dropWhile isSpace

/-- The number that four hexadecimal digits denote. -/
def hexFour? : List Char → Option (Nat × List Char)
  | a :: b :: c :: d :: cs => do
    let a ← Integer.digitIn? 16 a
    let b ← Integer.digitIn? 16 b
    let c ← Integer.digitIn? 16 c
    let d ← Integer.digitIn? 16 d
    some (((a * 16 + b) * 16 + c) * 16 + d, cs)
  | _ => none

/-- The character after a backslash and the letter `u`; two halves of a pair are one character. -/
def readCode? (cs : List Char) : Option (Char × List Char) := do
  let (n, rest) ← hexFour? cs
  match rest with
  | '\\' :: 'u' :: after =>
    match hexFour? after with
    | some (m, rest') =>
      match Text.pair? n m with
      | some c => some (c, rest')
      | none => some (Text.ofCode n, rest)
    | none => some (Text.ofCode n, rest)
  | _ => some (Text.ofCode n, rest)

/-- The character that a letter after a backslash denotes. -/
def unescape? : Char → Option Char
  | '"' => some '"'
  | '\\' => some '\\'
  | '/' => some '/'
  | 'n' => some '\n'
  | 'r' => some '\r'
  | 't' => some '\t'
  | 'b' => some (Char.ofNat 8)
  | 'f' => some (Char.ofNat 12)
  | _ => none

/-- The rest of a text after its opening quote. -/
def readText? : (fuel : Nat) → List Char → Option (List Char × List Char)
  | 0, _ => none
  | _ + 1, [] => none
  | _ + 1, '"' :: cs => some ([], cs)
  | fuel + 1, '\\' :: 'u' :: cs => do
    let (c, rest) ← readCode? cs
    let (s, rest) ← readText? fuel rest
    some (c :: s, rest)
  | fuel + 1, '\\' :: c :: cs => do
    let c ← unescape? c
    let (s, rest) ← readText? fuel cs
    some (c :: s, rest)
  | fuel + 1, c :: cs =>
    if c.toNat < 32 ∨ c = '\\' then none
    else do
      let (s, rest) ← readText? fuel cs
      some (c :: s, rest)

/-- Whether a character can stand in a number. -/
def isNumberChar (c : Char) : Bool :=
  c.isDigit || c == '-' || c == '+' || c == '.' || c == 'e' || c == 'E'

/-- A number: an integer unless it has a point or an exponent. -/
def readNumber? (cs : List Char) : Option (Json × List Char) :=
  let word := cs.takeWhile isNumberChar
  let rest := cs.dropWhile isNumberChar
  if word.any fun c => c == '.' || c == 'e' || c == 'E' then
    (Double.read? word).map fun x => (float x, rest)
  else (Integer.read? word).map fun n => (int n, rest)

/-- The characters after a word, if the text starts with it. -/
def afterWord? (word : String) (cs : List Char) : Option (List Char) :=
  if word.toList.isPrefixOf cs then some (cs.drop word.toList.length) else none

/-- A document without parts. -/
def readLeaf? (cs : List Char) : Option (Json × List Char) :=
  match cs with
  | '"' :: rest =>
    (readText? (rest.length + 1) rest).map fun (s, rest) => (text (String.ofList s), rest)
  | _ =>
    match afterWord? "null" cs, afterWord? "true" cs, afterWord? "false" cs with
    | some rest, _, _ => some (null, rest)
    | _, some rest, _ => some (bool true, rest)
    | _, _, some rest => some (bool false, rest)
    | none, none, none =>
      match afterWord? "NaN" cs, afterWord? "Infinity" cs, afterWord? "-Infinity" cs with
      | some rest, _, _ => some (float .undefined, rest)
      | _, some rest, _ => some (float (.infinite false), rest)
      | _, _, some rest => some (float (.infinite true), rest)
      | none, none, none => readNumber? cs

mutual

/-- A document and the characters after it. -/
def readJson? : (fuel : Nat) → List Char → Option (Json × List Char)
  | 0, _ => none
  | fuel + 1, cs =>
    match skipSpace cs with
    | '[' :: rest =>
      match skipSpace rest with
      | ']' :: rest => some (list [], rest)
      | rest => (readItems? fuel rest).map fun (xs, rest) => (list xs, rest)
    | '\x7b' :: rest =>
      match skipSpace rest with
      | '\x7d' :: rest => some (object [], rest)
      | rest => (readMembers? fuel rest).map fun (ms, rest) => (object ms, rest)
    | cs => readLeaf? cs

/-- Items up to the closing bracket. -/
def readItems? : (fuel : Nat) → List Char → Option (List Json × List Char)
  | 0, _ => none
  | fuel + 1, cs => do
    let (x, rest) ← readJson? fuel cs
    match skipSpace rest with
    | ']' :: rest => some ([x], rest)
    | ',' :: rest => do
      let (xs, rest) ← readItems? fuel rest
      some (x :: xs, rest)
    | _ => none

/-- Members up to the closing brace. -/
def readMembers? : (fuel : Nat) → List Char → Option (List (String × Json) × List Char)
  | 0, _ => none
  | fuel + 1, cs =>
    match skipSpace cs with
    | '"' :: rest => do
      let (key, rest) ← readText? (rest.length + 1) rest
      match skipSpace rest with
      | ':' :: rest => do
        let (value, rest) ← readJson? fuel rest
        match skipSpace rest with
        | '\x7d' :: rest => some ([(String.ofList key, value)], rest)
        | ',' :: rest => do
          let (ms, rest) ← readMembers? fuel rest
          some ((String.ofList key, value) :: ms, rest)
        | _ => none
      | _ => none
    | _ => none

end

/-- The document that a text denotes, with blanks around it. -/
def parse? (s : String) : Option Json :=
  let cs := s.toList
  match readJson? (2 * cs.length + 2) cs with
  | some (j, rest) => if (skipSpace rest).isEmpty then some j else none
  | none => none

/-- A closing quote ends a text. -/
@[simp]
theorem readText?_quote (fuel : Nat) (cs : List Char) :
    readText? (fuel + 1) ('"' :: cs) = some ([], cs) :=
  rfl

end ClusterConfig.Json
