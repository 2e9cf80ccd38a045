import ClusterConfig.Yaml.Fault

/-!
# A place in a text

The characters that are still to be read, with the number of the line and of the column they start
at. Past the end of the text stands the character zero, which no text holds.

Main definitions:

- `Yaml.Cursor`: a place in a text.
- `Yaml.Cursor.advance`, `Yaml.Cursor.forward`: the places after it.
- `Yaml.isBreak`, `Yaml.isBreakOrNul`, `Yaml.isEndOrBlank`: the characters that end things.
-/

namespace ClusterConfig.Yaml

/-- The character past the end of a text. -/
def nul : Char := '\x00'

/-- Whether a character ends a line. -/
def isBreak (c : Char) : Bool :=
  c == '\n' || c == '\r' || c == '\u0085' || c == '\u2028' || c == '\u2029'

/-- Whether a character ends a line or the text. -/
def isBreakOrNul (c : Char) : Bool :=
  c == nul || isBreak c

/-- Whether a character ends an indicator. -/
def isEndOrBlank (c : Char) : Bool :=
  c == ' ' || c == '\t' || isBreakOrNul c

/-- Whether a character is a space or ends a line or the text. -/
def isSpaceOrBreak (c : Char) : Bool :=
  c == ' ' || isBreakOrNul c

/-- A place in a text. -/
structure Cursor where
  rest : List Char
  index : Nat
  line : Nat
  column : Nat
  deriving Repr

namespace Cursor

/-- The start of a text. -/
def start (text : List Char) : Cursor :=
  ⟨text, 0, 0, 0⟩

/-- The next character. -/
def peek (c : Cursor) : Char :=
  c.rest.headD nul

/-- The character `n` places further. -/
def peekAt (c : Cursor) (n : Nat) : Char :=
  c.rest.getD n nul

/-- The place after the next character. A line feed or a return that no line feed follows starts a
line; a byte order mark takes no column. -/
def advance (c : Cursor) : Cursor :=
  match c.rest with
  | [] => c
  | ch :: rest =>
    if ch = '\n' ∨ (ch = '\r' ∧ rest.headD nul ≠ '\n') then ⟨rest, c.index + 1, c.line + 1, 0⟩
    else if ch = '\uFEFF' then ⟨rest, c.index + 1, c.line, c.column⟩
    else ⟨rest, c.index + 1, c.line, c.column + 1⟩

/-- The place `n` characters further. -/
def forward : Nat → Cursor → Cursor
  | 0, c => c
  | n + 1, c => forward n c.advance

/-- The characters of a class that come next, and the place after them. -/
def span (p : Char → Bool) (c : Cursor) : List Char × Cursor :=
  let taken := c.rest.takeWhile p
  (taken, c.forward taken.length)

/-- The place after the characters of a class that come next. -/
def skip (p : Char → Bool) (c : Cursor) : Cursor :=
  (c.span p).2

/-- The place after the spaces that come next. -/
def skipSpaces (c : Cursor) : Cursor :=
  c.skip (· == ' ')

/-- The line end that comes next, if one does, and the place after it. All line ends but the two
separators are line feeds. -/
def lineBreak? (c : Cursor) : Option (Char × Cursor) :=
  match c.rest with
  | '\r' :: '\n' :: _ => some ('\n', c.forward 2)
  | ch :: _ =>
    if ch = '\u2028' ∨ ch = '\u2029' then some (ch, c.advance)
    else if isBreak ch then some ('\n', c.advance)
    else none
  | [] => none

/-- The place after the line end that comes next, if one does. -/
def skipBreak (c : Cursor) : Cursor :=
  match c.lineBreak? with
  | some (_, after) => after
  | none => c

/-- The place after a comment, if one comes next. -/
def skipComment (c : Cursor) : Cursor :=
  if c.peek = '#' then c.skip (fun ch => !isBreakOrNul ch) else c

/-- Whether three characters of the given kind come next that stand alone. -/
def atMark (mark : Char) (c : Cursor) : Bool :=
  [mark, mark, mark].isPrefixOf c.rest && isEndOrBlank (c.peekAt 3)

/-- Whether a mark between documents comes next. -/
def atSeparator (c : Cursor) : Bool :=
  c.atMark '-' || c.atMark '.'

@[simp]
theorem forward_zero (c : Cursor) : c.forward 0 = c :=
  rfl

end Cursor

end ClusterConfig.Yaml
