import ClusterConfig.Yaml.Cursor

/-!
# Block scalars

Scalars that are written as a block of indented lines, which either keep their line ends or are
folded into one.

Main definitions:

- `Yaml.Block.Header`: what the line before the block says.
- `Yaml.Block.read?`: the block scalar that starts here.
-/

namespace ClusterConfig.Yaml.Block

/-- What happens to the line ends after the last line. -/
inductive Chomping where
  /-- One is kept. -/
  | clip
  /-- None is kept. -/
  | strip
  /-- All are kept. -/
  | keep
  deriving DecidableEq, Repr

/-- What the line before the block says. -/
structure Header where
  chomping : Chomping
  indent : Option Nat

/-- The chomping that a sign asks for. -/
def chomping? : Char → Option Chomping
  | '+' => some .keep
  | '-' => some .strip
  | _ => none

/-- The indentation that a digit asks for; zero is none. -/
def indentDigit? (c : Char) : Except Fault (Option Nat) :=
  if c.isDigit then
    if c = '0' then .error .badToken else .ok (some (c.toNat - '0'.toNat))
  else .ok none

/-- The header that starts here, a sign and a digit in any order, up to the end of its line. -/
def header? (c : Cursor) : Except Fault (Header × Cursor) := do
  let (head, c) ←
    match chomping? c.peek with
    | some chomping =>
      match ← indentDigit? c.advance.peek with
      | some n => pure (Header.mk chomping (some n), c.forward 2)
      | none => pure (Header.mk chomping none, c.advance)
    | none =>
      match ← indentDigit? c.peek with
      | some n =>
        match chomping? c.advance.peek with
        | some chomping => pure (Header.mk chomping (some n), c.forward 2)
        | none => pure (Header.mk .clip (some n), c.advance)
      | none => pure (Header.mk .clip none, c)
  if !isSpaceOrBreak c.peek then throw .badToken
  let c := c.skipSpaces.skipComment
  if !isBreakOrNul c.peek then throw .badToken
  return (head, c.skipBreak)

/-- The blank lines at the start of a block. -/
structure Lead where
  breaks : List Char
  /-- The greatest indentation among them and the first line. -/
  deepest : Nat
  /-- The indentation of the first blank line, if there is one. -/
  first : Option Nat
  after : Cursor

/-- The blank lines that come next, given what is known of those before. -/
def lead : (fuel : Nat) → Lead → Lead
  | 0, l => l
  | fuel + 1, l =>
    if l.after.peek = ' ' then
      let after := l.after.advance
      lead fuel { l with after, deepest := max l.deepest after.column }
    else
      match l.after.lineBreak? with
      | none => l
      | some (b, after) =>
        lead fuel { l with
          breaks := l.breaks ++ [b]
          first := some (l.first.getD l.after.column)
          after }

/-- The place after the spaces that come next, no further than a column. -/
def skipIndent (column : Nat) : (fuel : Nat) → Cursor → Cursor
  | 0, c => c
  | fuel + 1, c =>
    if c.column < column ∧ c.peek = ' ' then skipIndent column fuel c.advance else c

/-- The blank lines between lines of a block. -/
def blankLines (column : Nat) : (fuel : Nat) → Cursor → List Char × Cursor
  | 0, c => ([], c)
  | fuel + 1, c =>
    let c := skipIndent column (c.rest.length + 1) c
    match c.lineBreak? with
    | none => ([], c)
    | some (b, after) =>
      let (more, last) := blankLines column fuel after
      (b :: more, last)

/-- What was read of a block: its text, the end of its last line, the blank lines after that. -/
structure Body where
  text : List Char
  lastBreak : List Char
  blank : List Char
  after : Cursor

/-- Reads the lines of a block that start at a column. Two lines that both start with something
other than a blank are folded if the block is. In a block at the outermost level a mark between
documents ends the block. -/
def lines (folded outermost : Bool) (column : Nat) : (fuel : Nat) → Body → Body
  | 0, body => body
  | fuel + 1, body =>
    let c := body.after
    if c.column ≠ column ∨ c.peek = nul then body
    else
      let startsFull := !(c.peek == ' ' || c.peek == '\t')
      let (line, c) := c.span fun ch => !isBreakOrNul ch
      let (lastBreak, c) : List Char × Cursor := match c.lineBreak? with
        | some (b, after) => ([b], after)
        | none => ([], c)
      let (blank, c) := blankLines column (c.rest.length + 1) c
      let text := body.text ++ body.blank ++ line
      if outermost && c.column == 0 && c.atSeparator then ⟨text, lastBreak, blank, c⟩
      else if c.column = column ∧ c.peek ≠ nul then
        let nextFull := !(c.peek == ' ' || c.peek == '\t')
        let between :=
          if folded && lastBreak == ['\n'] && startsFull && nextFull then
            if blank.isEmpty then [' '] else []
          else lastBreak
        lines folded outermost column fuel ⟨text ++ between, lastBreak, blank, c⟩
      else ⟨text, lastBreak, blank, c⟩

/-- The text of a block, given its chomping. -/
def Body.chomp (chomping : Chomping) (body : Body) : List Char :=
  match chomping with
  | .strip => body.text
  | .clip => body.text ++ body.lastBreak
  | .keep => body.text ++ body.lastBreak ++ body.blank

/-- The block scalar that starts here, at its bar or angle, below an indentation. -/
def read? (indent : Int) (c : Cursor) : Except Fault (List Char × Cursor) := do
  let folded := c.peek == '>'
  let (head, c) ← header? c.advance
  let least := (indent + 1).toNat
  match head.indent with
  | some n =>
    let column := max least 1 + n - 1
    let (blank, c) := blankLines column (c.rest.length + 1) c
    let body := lines folded false column (c.rest.length + 1) ⟨[], [], blank, c⟩
    return (body.chomp head.chomping, body.after)
  | none =>
    let l := lead (c.rest.length + 1) ⟨[], 0, none, c⟩
    match l.first with
    | some first => if 0 < first ∧ first < l.deepest then throw .badToken
    | none => pure ()
    let column := max least l.deepest
    let body := lines folded (least == 0) column (l.after.rest.length + 1)
      ⟨[], [], l.breaks, l.after⟩
    return (body.chomp head.chomping, body.after)

end ClusterConfig.Yaml.Block
