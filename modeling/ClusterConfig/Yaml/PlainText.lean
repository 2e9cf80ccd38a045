import ClusterConfig.Yaml.Cursor

/-!
# Plain scalars

Scalars without quotes. They end at a character that means something else at that place; spaces
and line ends inside them are folded.

Main definitions:

- `Yaml.Plain.starts`: whether a plain scalar can start here.
- `Yaml.Plain.read`: the plain scalar that starts here.
-/

namespace ClusterConfig.Yaml.Plain

/-- Where a scalar stands: whether inside brackets, how far its lines have to be indented, and by
the rules of which version it is read. -/
structure Context where
  inFlow : Bool
  indent : Int
  version : Version

/-- The characters that start something else. -/
def reserved : List Char :=
  "-?:,[]\x7b\x7d#&*!|>'\"%@`".toList

/-- Whether a character starts a plain scalar whatever follows it. -/
def isOrdinary (c : Char) : Bool :=
  !(isBreakOrNul c || c == ' ' || c == '\t' || reserved.contains c)

/-- Whether a plain scalar can start with a character, given the character after it. -/
def starts (inFlow : Bool) (version : Version) (c next : Char) : Bool :=
  if isOrdinary c then true
  else if version = .legacy then
    !isEndOrBlank next && (c == '-' || (!inFlow && (c == '?' || c == ':')))
  else if c = '-' then !isEndOrBlank next
  else if inFlow then c == ':' && !(next == ' ' || next == '\t')
  else (c == '?' || c == ':') && !isEndOrBlank next

/-- Whether a plain scalar stops at a character, given the character after it. -/
def stops (ctx : Context) (c next : Char) : Bool :=
  if c = ':' ∧ isEndOrBlank next = false then false
  else if c = '?' ∧ ctx.version ≠ .legacy then false
  else
    isEndOrBlank c || c == ':' && !ctx.inFlow ||
      ctx.inFlow && [',', ':', '?', '[', ']', '\x7b', '\x7d'].contains c

/-- The characters up to the first at which a plain scalar stops. -/
def run (ctx : Context) : List Char → List Char
  | [] => []
  | c :: cs => if stops ctx c (cs.headD nul) then [] else c :: run ctx cs

/-- The line ends after the first, with the place after them; none if a mark between documents
follows one of them. -/
def moreBreaks : (fuel : Nat) → Cursor → Option (List Char) × Cursor
  | 0, c => (some [], c)
  | fuel + 1, c =>
    if c.peek = ' ' then moreBreaks fuel c.advance
    else
      match c.lineBreak? with
      | none => (some [], c)
      | some (b, after) =>
        if after.atSeparator then (none, after)
        else
          let (rest, last) := moreBreaks fuel after
          (rest.map (b :: ·), last)

/-- What stands for the space between two parts of a plain scalar. -/
structure Gap where
  /-- The folded space; empty if the scalar cannot go on after it. -/
  text : List Char
  /-- Whether a line ended in it. -/
  broken : Bool
  /-- The place after it. -/
  after : Cursor

/-- The text for a first line end and those after it: one alone is a space. -/
def fold (first : Char) (more : List Char) : List Char :=
  if first ≠ '\n' then first :: more
  else if more.isEmpty then [' ']
  else more

/-- The gap that starts here. -/
def gap (c : Cursor) : Gap :=
  let (spaces, c) := c.span (· == ' ')
  match c.lineBreak? with
  | none => ⟨spaces, false, c⟩
  | some (b, after) =>
    if after.atSeparator then ⟨[], true, after⟩
    else
      match moreBreaks (after.rest.length + 1) after with
      | (none, last) => ⟨[], true, last⟩
      | (some more, last) => ⟨fold b more, true, last⟩

/-- What was read: the text, whether a key may follow because a line ended, and the place. -/
structure Result where
  text : List Char
  broken : Bool
  after : Cursor

/-- Goes on reading at a place, after a gap that counts if the scalar goes on after it. The text is
what the scalar gains by it. -/
def extend (ctx : Context) : (fuel : Nat) → (space : List Char) → (broken : Bool) → Cursor → Result
  | 0, _, broken, c => ⟨[], broken, c⟩
  | fuel + 1, space, broken, c =>
    let part := run ctx c.rest
    if c.peek = '#' || part.isEmpty then ⟨[], broken, c⟩
    else
      let gap := gap (c.forward part.length)
      let more :=
        if gap.text.isEmpty || !ctx.inFlow && gap.after.column < ctx.indent then
          ⟨[], gap.broken, gap.after⟩
        else extend ctx fuel gap.text gap.broken gap.after
      { more with text := space ++ part ++ more.text }

/-- The plain scalar that starts here. -/
def read (ctx : Context) (c : Cursor) : Result :=
  extend ctx (c.rest.length + 1) [] false c

end ClusterConfig.Yaml.Plain
