import ClusterConfig.Number.Integer
import ClusterConfig.Yaml.Cursor

/-!
# Properties of nodes and directives

The small forms around the nodes of a document: the anchors that name them, the tags that say what
they are, and the directives in front of a document.

Main definitions:

- `Yaml.TagName`: a tag as it is written.
- `Yaml.readAnchor?`, `Yaml.readTag?`: an anchor or alias, and a tag.
- `Yaml.Directive`, `Yaml.readDirective?`: a directive.
-/

namespace ClusterConfig.Yaml

/-- A tag as it is written: a handle, if it has one, and a suffix. -/
structure TagName where
  handle : Option String
  suffix : String
  deriving DecidableEq, Repr

/-! ## Anchors -/

/-- The characters that can never stand in an anchor. -/
def flowMarks : List Char :=
  [',', '[', ']', '\x7b', '\x7d']

/-- Whether a character can stand in an anchor: it prints, is no blank and no bracket or comma. -/
def isAnchorChar (c : Char) : Bool :=
  let n := c.toNat
  ((0x21 ≤ n && n ≤ 0x7E) || (0xA0 ≤ n && n ≤ 0xD7FF) || (0xE000 ≤ n && n ≤ 0xFFFD && n ≠ 0xFEFF) ||
    0x10000 ≤ n) && !flowMarks.contains c

/-- Whether a character can follow an anchor. -/
def endsAnchor (c : Char) : Bool :=
  isEndOrBlank c ||
    ['?', ':', ',', '[', ']', '\x7b', '\x7d', '%', '@', '\x60'].contains c

/-- The name after the indicator of an anchor or an alias. -/
def readAnchor? (c : Cursor) : Except Fault (String × Cursor) :=
  let (name, after) := c.advance.span isAnchorChar
  if name.isEmpty || !endsAnchor after.peek then .error .badToken
  else .ok (String.ofList name, after)

/-! ## Tags -/

/-- Whether a character can stand in the suffix of a tag. -/
def isUriChar (version : Version) (c : Char) : Bool :=
  c.isAlphanum || "-;/?:@&=+$,_.!~*'()[]%".toList.contains c || (c == '#' && version.isModern)

/-- The value of a hexadecimal digit of the basic Latin block. -/
def hexValue? (c : Char) : Option Nat :=
  if c.isDigit then some (c.toNat - '0'.toNat)
  else if 'a' ≤ c ∧ c ≤ 'f' then some (c.toNat - 'a'.toNat + 10)
  else if 'A' ≤ c ∧ c ≤ 'F' then some (c.toNat - 'A'.toNat + 10)
  else none

/-- The bytes at the start of the characters that are written as percent signs and two digits. -/
def percentBytes? : List Char → Option (List UInt8 × List Char)
  | '%' :: a :: b :: cs => do
    let high ← hexValue? a
    let low ← hexValue? b
    let (bytes, rest) ← percentBytes? cs
    some (UInt8.ofNat (high * 16 + low) :: bytes, rest)
  | '%' :: _ => none
  | cs => some ([], cs)

/-- The characters with every run of percent codes decoded. -/
def percentDecode? : (fuel : Nat) → List Char → Option (List Char)
  | 0, _ => none
  | _ + 1, [] => some []
  | fuel + 1, '%' :: cs => do
    let (bytes, rest) ← percentBytes? ('%' :: cs)
    let text ← String.fromUTF8? bytes.toByteArray
    let more ← percentDecode? fuel rest
    some (text.toList ++ more)
  | fuel + 1, c :: cs => (percentDecode? fuel cs).map (c :: ·)

/-- The suffix of a tag, which is not empty. -/
def readUri? (version : Version) (c : Cursor) : Except Fault (String × Cursor) :=
  let (chars, after) := c.span (isUriChar version)
  if chars.isEmpty then .error .badToken
  else
    match percentDecode? (chars.length + 1) chars with
    | some text => .ok (String.ofList text, after)
    | none => .error .badToken

/-- Whether a character can stand in the handle of a tag. -/
def isHandleChar (c : Char) : Bool :=
  c.isAlphanum || c == '-' || c == '_'

/-- The handle of a tag: an exclamation mark before a space, or a name between two. -/
def readHandle? (c : Cursor) : Except Fault (String × Cursor) :=
  if c.peek ≠ '!' then .error .badToken
  else if c.peekAt 1 = ' ' then .ok ("!", c.advance)
  else
    let (name, after) := c.advance.span isHandleChar
    if after.peek = '!' then .ok ("!" ++ String.ofList name ++ "!", after.advance)
    else .error .badToken

/-- Whether the characters up to the next blank or line end hold an exclamation mark. -/
def hasHandle (cs : List Char) : Bool :=
  (cs.takeWhile fun ch => !isSpaceOrBreak ch).contains '!'

/-- The tag that starts here. It ends at a space, a line end or the end of the text. A second
exclamation mark belongs to the short handle, unless a handle of its own starts there. -/
def readTag? (version : Version) (c : Cursor) : Except Fault (TagName × Cursor) := do
  let double := c.peekAt 1 == '!'
  let short := if double then "!!" else "!"
  let c := if double then c.advance else c
  let next := c.peekAt 1
  let (tag, after) ←
    if next = '<' then
      let (suffix, after) ← readUri? version (c.forward 2)
      if after.peek ≠ '>' then throw .badToken
      pure (TagName.mk none suffix, after.advance)
    else if isEndOrBlank next then pure (TagName.mk none short, c.advance)
    else if hasHandle c.advance.rest then
      let (handle, after) ← readHandle? c
      let (suffix, after) ← readUri? version after
      pure (TagName.mk (some handle) suffix, after)
    else
      let (suffix, after) ← readUri? version c.advance
      pure (TagName.mk (some short) suffix, after)
  if !isSpaceOrBreak after.peek then throw .badToken
  return (tag, after)

/-- The characters of a suffix once more without percent codes: each percent sign stands with the
two characters after it, or as many as there are, for the character with the code they write. -/
def decodeSuffix? : List Char → Option (List Char)
  | '%' :: a :: b :: cs => do
    let c ← codeOf? [a, b]
    let more ← decodeSuffix? cs
    some (c :: more)
  | '%' :: cs => (codeOf? cs).map ([·])
  | c :: cs => (decodeSuffix? cs).map (c :: ·)
  | [] => some []
where
  /-- The character with the hexadecimal code that is written. -/
  codeOf? (cs : List Char) : Option Char :=
    match Integer.readIn? 16 cs with
    | some (.ofNat n) => some (Char.ofNat n)
    | _ => none

/-! ## Directives -/

/-- A directive. -/
inductive Directive where
  /-- The version of the document. -/
  | version (v : Version)
  /-- What a handle stands for. -/
  | tag (handle meaning : String)
  /-- Any other directive, which counts for nothing. -/
  | other
  deriving DecidableEq, Repr

/-- Whether a character can stand in the name of a directive. -/
def isDirectiveChar (c : Char) : Bool :=
  c.isAlphanum || c == '-' || c == '_' || c == ':' || c == '.'

/-- A number in a directive. -/
def readDirectiveNumber? (c : Cursor) : Except Fault (Nat × Cursor) :=
  let (digits, after) := c.span Char.isDigit
  if digits.isEmpty then .error .badToken
  else if Integer.digitLimit < digits.length then .error .longNumber
  else .ok (digits.foldl (fun n d => n * 10 + (d.toNat - '0'.toNat)) 0, after)

/-- The version that a directive names. -/
def readVersion? (c : Cursor) : Except Fault (Version × Cursor) := do
  let (major, c) ← readDirectiveNumber? c.skipSpaces
  if c.peek ≠ '.' then throw .badToken
  let (minor, c) ← readDirectiveNumber? c.advance
  if !isSpaceOrBreak c.peek then throw .badToken
  return (⟨major, minor⟩, c)

/-- The handle and its meaning that a directive names. -/
def readTagDirective? (version : Version) (c : Cursor) :
    Except Fault (String × String × Cursor) := do
  let (handle, c) ← readHandle? c.skipSpaces
  if c.peek ≠ ' ' then throw .badToken
  let (meaning, c) ← readUri? version c.skipSpaces
  if !isSpaceOrBreak c.peek then throw .badToken
  return (handle, meaning, c)

/-- The end of the line of a directive, where only a comment may stand. -/
def readDirectiveEnd? (c : Cursor) : Except Fault Cursor :=
  let c := c.skipSpaces.skipComment
  if isBreakOrNul c.peek then .ok c.skipBreak else .error .badToken

/-- The directive that starts here. -/
def readDirective? (version : Version) (c : Cursor) : Except Fault (Directive × Cursor) := do
  let (name, after) := c.advance.span isDirectiveChar
  if name.isEmpty || !isSpaceOrBreak after.peek then throw .badToken
  if name == "YAML".toList then
    let (v, after) ← readVersion? after
    return (.version v, ← readDirectiveEnd? after)
  else if name == "TAG".toList then
    let (handle, meaning, after) ← readTagDirective? version after
    return (.tag handle meaning, ← readDirectiveEnd? after)
  else return (.other, ← readDirectiveEnd? (after.skip fun ch => !isBreakOrNul ch))

end ClusterConfig.Yaml
