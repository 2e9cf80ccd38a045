import ClusterConfig.Number.Integer
import ClusterConfig.Text.Half
import ClusterConfig.Yaml.Cursor

/-!
# Quoted scalars

Scalars between single or double quotes. Line ends inside them are folded; between double quotes a
backslash starts the code of a character or hides a line end.

Main definitions:

- `Yaml.Quoted.read?`: the quoted scalar that starts here.
-/

namespace ClusterConfig.Yaml.Quoted

/-- The character that a letter after a backslash stands for. -/
def letter? : Char → Option Char
  | '0' => some nul
  | 'a' => some '\x07'
  | 'b' => some '\x08'
  | 't' | '\t' => some '\t'
  | 'n' => some '\n'
  | 'v' => some '\x0b'
  | 'f' => some '\x0c'
  | 'r' => some '\r'
  | 'e' => some '\x1b'
  | ' ' => some ' '
  | '"' => some '"'
  | '/' => some '/'
  | '\\' => some '\\'
  | 'N' => some '\u0085'
  | '_' => some '\u00a0'
  | 'L' => some '\u2028'
  | 'P' => some '\u2029'
  | _ => none

/-- The number of hexadecimal digits after a letter that starts a code. -/
def codeLength? : Char → Option Nat
  | 'x' => some 2
  | 'u' => some 4
  | 'U' => some 8
  | _ => none

/-- Whether a character is a hexadecimal digit of the basic Latin block. -/
def isHexDigit (c : Char) : Bool :=
  c.isDigit || ('a' ≤ c && c ≤ 'f') || ('A' ≤ c && c ≤ 'F')

/-- The number that the next `n` hexadecimal digits write, if they are there. -/
def code? (n : Nat) (c : Cursor) : Option Nat :=
  let digits := c.rest.take n
  if digits.length = n ∧ digits.all isHexDigit then Integer.digits? 16 digits else none

/-- The character with a code; the halves of a pair stay apart. -/
def character (code : Nat) : Except Fault Char :=
  if 0x7FFFFFFF < code then .error .hugeCode
  else if 0x10FFFF < code then .error .badCode
  else .ok (Text.ofCode code)

/-- Whether a character is a space or a tab. -/
def isBlank (c : Char) : Bool :=
  c == ' ' || c == '\t'

/-- The line ends that come next, with blanks before and between them. A mark between documents must
not follow one. -/
def breaks? : (fuel : Nat) → Cursor → Except Fault (List Char × Cursor)
  | 0, c => .ok ([], c)
  | fuel + 1, c =>
    if c.atSeparator then .error .badToken
    else
      let c := c.skip isBlank
      match c.lineBreak? with
      | none => .ok ([], c)
      | some (b, after) => do
        let (more, last) ← breaks? fuel after
        return (b :: more, last)

/-- The blanks that come next, line ends folded. The text must not end here. -/
def spaces? (c : Cursor) : Except Fault (List Char × Cursor) :=
  let (blanks, c) := c.span isBlank
  if c.peek = nul then .error .badToken
  else
    match c.lineBreak? with
    | none => .ok (blanks, c)
    | some (b, after) => do
      let (more, last) ← breaks? (after.rest.length + 1) after
      if b ≠ '\n' then return (b :: more, last)
      else if more.isEmpty then return ([' '], last)
      else return (more, last)

/-- Whether a character stands for itself between quotes. -/
def isLiteral (c : Char) : Bool :=
  !(c == ' ' || c == '\t' || c == '\'' || c == '"' || c == '\\' || isBreakOrNul c)

/-- What a backslash starts: the characters it stands for and the place after them. -/
def escaped? (c : Cursor) : Except Fault (List Char × Cursor) :=
  let ch := c.peek
  match letter? ch, codeLength? ch with
  | some replacement, _ => .ok ([replacement], c.advance)
  | none, some n =>
    match code? n c.advance with
    | none => .error .badToken
    | some code => do
      let one ← character code
      return ([one], c.advance.forward n)
  | none, none =>
    match c.lineBreak? with
    | none => .error .badToken
    | some (_, after) => breaks? (after.rest.length + 1) after

/-- The part of a scalar up to the next blank, line end or closing quote. -/
def nonSpaces? (double : Bool) : (fuel : Nat) → Cursor → Except Fault (List Char × Cursor)
  | 0, c => .ok ([], c)
  | fuel + 1, c => do
    let (literal, c) := c.span isLiteral
    let ch := c.peek
    if !double && ch = '\'' && c.peekAt 1 = '\'' then
      let (more, last) ← nonSpaces? double fuel (c.forward 2)
      return (literal ++ '\'' :: more, last)
    else if (double && ch = '\'') || (!double && (ch = '"' || ch = '\\')) then
      let (more, last) ← nonSpaces? double fuel c.advance
      return (literal ++ ch :: more, last)
    else if double && ch = '\\' then
      let (part, after) ← escaped? c.advance
      let (more, last) ← nonSpaces? double fuel after
      return (literal ++ part ++ more, last)
    else return (literal, c)

/-- The parts of a scalar up to its closing quote. -/
def parts? (double : Bool) : (fuel : Nat) → Cursor → Except Fault (List Char × Cursor)
  | 0, _ => .error .badToken
  | fuel + 1, c =>
    if c.peek = (if double then '"' else '\'') then .ok ([], c.advance)
    else do
      let (space, c) ← spaces? c
      let (part, c) ← nonSpaces? double (c.rest.length + 1) c
      let (more, last) ← parts? double fuel c
      return (space ++ part ++ more, last)

/-- The quoted scalar that starts here, at its opening quote. -/
def read? (c : Cursor) : Except Fault (List Char × Cursor) := do
  let double := c.peek == '"'
  let (part, c) ← nonSpaces? double (c.rest.length + 1) c.advance
  let (more, last) ← parts? double (c.rest.length + 2) c
  return (part ++ more, last)

end ClusterConfig.Yaml.Quoted
