import ClusterConfig.Yaml.BlockText
import ClusterConfig.Yaml.PlainText
import ClusterConfig.Yaml.Property
import ClusterConfig.Yaml.QuotedText

/-!
# Tokens

The tokens of a text. Indentation becomes tokens of its own, and a key is recognised only by the
colon after it, so that its token is put in front of tokens that were read before the colon. A token
is given out once no later colon can change what stands in front of it.

The version that a directive names is in force from the next mark at the start of a document on;
such a mark without a directive in front puts the current version in force.

Main definitions:

- `Yaml.Token`: the tokens.
- `Yaml.Lexer`: the state of the reader between two tokens.
- `Yaml.Token.ofText`: the tokens of a text.
-/

namespace ClusterConfig.Yaml

/-- A token of a document. -/
inductive Token where
  | directive (d : Directive)
  | documentStart
  /-- The mark at the end of a document, and whether another token stands on its line. -/
  | documentEnd (crowded : Bool)
  | sequenceStart
  | mappingStart
  | blockEnd
  | flowSequenceStart
  | flowMappingStart
  | flowSequenceEnd
  | flowMappingEnd
  | blockEntry
  | flowEntry
  | key
  | value
  | alias (name : String)
  | anchor (name : String)
  | tag (t : TagName)
  | scalar (text : String) (plain : Bool)
  /-- The end of the text. -/
  | finish
  /-- No token: the text goes wrong here. -/
  | broken (fault : Fault)
  deriving DecidableEq, Repr

/-- Whether a token is the mark at the end of a document. -/
def Token.isDocumentEnd : Token → Bool
  | .documentEnd _ => true
  | _ => false

/-- The kinds of brackets. -/
inductive Bracket where
  | square
  | curly
  deriving DecidableEq, Repr

/-- A token that may turn out to be a key, if a colon follows on its line. -/
structure PendingKey where
  /-- The number of the token in the text. -/
  number : Nat
  /-- Whether it has to be a key, because it stands where only a key can stand. -/
  required : Bool
  index : Nat
  line : Nat
  column : Nat

/-- The state of the reader between two tokens. -/
structure Lexer where
  cursor : Cursor
  /-- Tokens that were read and not given out. -/
  queue : List Token
  /-- How many tokens were given out. -/
  given : Nat
  finished : Bool
  /-- The column of the innermost block, `-1` outside of all. -/
  indent : Int
  /-- The columns of the blocks around it. -/
  outer : List Int
  /-- The brackets that are open, the innermost first. -/
  brackets : List Bracket
  /-- Whether a key can start here. -/
  keyAllowed : Bool
  /-- The tokens that may be keys, with the number of brackets that were open. -/
  pending : List (Nat × PendingKey)
  /-- The version in force. -/
  version : Version
  /-- The version that comes into force at the next start of a document. -/
  announced : Version

/-- A step of the reader. -/
abbrev Lexer.Step := Except Fault Lexer

namespace Lexer

/-- The reader at the start of a text. -/
def start (version : Version) (text : List Char) : Lexer where
  cursor := .start text
  queue := []
  given := 0
  finished := false
  indent := -1
  outer := []
  brackets := []
  keyAllowed := true
  pending := []
  version := version
  announced := .current

/-- The number of open brackets. -/
def depth (l : Lexer) : Nat :=
  l.brackets.length

/-- Whether no bracket is open. -/
def inBlock (l : Lexer) : Bool :=
  l.brackets.isEmpty

/-- A token that was read. -/
def push (l : Lexer) (t : Token) : Lexer :=
  { l with queue := l.queue ++ [t] }

/-- A token put in front of the one with the given number. -/
def insertAt (l : Lexer) (number : Nat) (t : Token) : Lexer :=
  let place := number - l.given
  { l with queue := l.queue.take place ++ t :: l.queue.drop place }

/-- A token of `n` characters that was read. -/
def take (l : Lexer) (n : Nat) (t : Token) : Lexer :=
  { l with cursor := l.cursor.forward n }.push t

/-! ## Pending keys -/

/-- The token that may be a key among the brackets that are open now. -/
def pendingHere (l : Lexer) : Option PendingKey :=
  l.pending.lookup l.depth

/-- Forgets a token that may be a key. -/
def dropPending (l : Lexer) (depth : Nat) : Lexer :=
  { l with pending := l.pending.filter fun p => p.1 ≠ depth }

/-- Forgets the token that may be a key here, which must not be required to be one. -/
def abandonKey (l : Lexer) : Step :=
  match l.pendingHere with
  | some key => if key.required then .error .badToken else .ok (l.dropPending l.depth)
  | none => .ok l

/-- Notes that the next token may be a key. -/
def noteKey (l : Lexer) : Step :=
  if l.keyAllowed then do
    let l ← l.abandonKey
    let key : PendingKey :=
      { number := l.given + l.queue.length
        required := l.inBlock && l.indent == l.cursor.column
        index := l.cursor.index
        line := l.cursor.line
        column := l.cursor.column }
    return { l with pending := l.pending ++ [(l.depth, key)] }
  else .ok l

/-- Whether a token can no longer be a key: the line is over or 1024 characters have passed. -/
def isStale (l : Lexer) (key : PendingKey) : Bool :=
  key.line != l.cursor.line || 1024 < l.cursor.index - key.index

/-- Forgets all tokens that can no longer be keys, none of which must be required to be one. -/
def dropStale (l : Lexer) : Step :=
  if l.pending.any fun p => l.isStale p.2 && p.2.required then .error .badToken
  else .ok { l with pending := l.pending.filter fun p => !l.isStale p.2 }

/-! ## Blocks -/

/-- Ends the blocks that are indented further than a column. -/
def unwind (column : Int) : List Int → Lexer → Lexer
  | [], l => l
  | next :: outer, l =>
    if column < l.indent then
      unwind column outer { l.push .blockEnd with indent := next, outer := outer }
    else l

/-- Ends the blocks that are indented further than a column; between brackets none ends. -/
def endBlocks (l : Lexer) (column : Int) : Lexer :=
  if l.inBlock then unwind column l.outer l else l

/-- Starts a block at a column, unless the innermost one is indented as far. -/
def startBlock (l : Lexer) (column : Int) : Bool × Lexer :=
  if l.indent < column then (true, { l with outer := l.indent :: l.outer, indent := column })
  else (false, l)

/-- Starts a block here, if no bracket is open. -/
def openBlock (l : Lexer) (t : Token) : Lexer :=
  if l.inBlock then
    match l.startBlock l.cursor.column with
    | (true, l) => l.push t
    | (false, l) => l
  else l

/-! ## Tokens -/

/-- The place of the next token: spaces, comments and line ends count for nothing, but a line end
outside of brackets allows a key. -/
def skipToToken : (fuel : Nat) → Lexer → Lexer
  | 0, l => l
  | fuel + 1, l =>
    let blank (c : Char) : Bool := c == ' ' || (!l.inBlock && c == '\t')
    let cursor := (l.cursor.skip blank).skipComment
    match cursor.lineBreak? with
    | some (_, after) =>
      skipToToken fuel { l with cursor := after, keyAllowed := l.keyAllowed || l.inBlock }
    | none => { l with cursor }

/-- The place of the first token: a byte order mark at the start of the text counts for nothing. -/
def skipMark (l : Lexer) : Lexer :=
  if l.cursor.index = 0 ∧ l.cursor.peek = '\uFEFF' then { l with cursor := l.cursor.advance } else l

/-- The end of the text. -/
def readFinish (l : Lexer) : Step := do
  let l ← (l.endBlocks (-1)).abandonKey
  return { l with keyAllowed := false, pending := [], finished := true }.push .finish

/-- A directive. -/
def readDirective (l : Lexer) : Step := do
  let l ← (l.endBlocks (-1)).abandonKey
  let (d, cursor) ← readDirective? l.version l.cursor
  let announced := match d with
    | .version v => v
    | _ => l.announced
  return { l with keyAllowed := false, announced, cursor }.push (.directive d)

/-- A mark between documents. -/
def readSeparator (l : Lexer) (t : Token) : Step := do
  let l ← (l.endBlocks (-1)).abandonKey
  return { l with keyAllowed := false }.take 3 t

/-- The mark at the start of a document. -/
def readDocumentStart (l : Lexer) : Step := do
  let l ← l.readSeparator .documentStart
  return { l with version := l.announced, announced := .current }

/-- The mark at the end of a document. -/
def readDocumentEnd (l : Lexer) : Step :=
  let cursor := l.cursor.forward 3
  let next := (skipToToken (cursor.rest.length + 1) { l with cursor }).cursor
  l.readSeparator (.documentEnd (next.peek != nul && next.line == l.cursor.line))

/-- An opening bracket. -/
def readOpen (l : Lexer) (b : Bracket) (t : Token) : Step := do
  let l ← l.noteKey
  return { l with brackets := b :: l.brackets, keyAllowed := true }.take 1 t

/-- A closing bracket, of whatever kind. -/
def readClose (l : Lexer) (t : Token) : Step := do
  let l ← l.abandonKey
  return { l with brackets := l.brackets.tail, keyAllowed := false }.take 1 t

/-- A comma between brackets. -/
def readFlowEntry (l : Lexer) : Step := do
  let l ← { l with keyAllowed := true }.abandonKey
  return l.take 1 .flowEntry

/-- The dash of an item. -/
def readBlockEntry (l : Lexer) : Step := do
  if l.inBlock && !l.keyAllowed then .error .badToken
  else
    let l ← { l.openBlock .sequenceStart with keyAllowed := true }.abandonKey
    return l.take 1 .blockEntry

/-- The question mark of a key. -/
def readKey (l : Lexer) : Step := do
  if l.inBlock && !l.keyAllowed then .error .badToken
  else
    let l ← { l.openBlock .mappingStart with keyAllowed := l.inBlock }.abandonKey
    return l.take 1 .key

/-- The colon of a value. If a token before it may be a key it is one now. -/
def readValue (l : Lexer) : Step :=
  match l.pendingHere with
  | some key =>
    let l := (l.dropPending l.depth).insertAt key.number .key
    let l :=
      if l.inBlock then
        match l.startBlock key.column with
        | (true, l) => l.insertAt key.number .mappingStart
        | (false, l) => l
      else l
    .ok ({ l with keyAllowed := false }.take 1 .value)
  | none => do
    if l.inBlock && !l.keyAllowed then .error .badToken
    else
      let l ← { l.openBlock .mappingStart with keyAllowed := l.inBlock }.abandonKey
      return l.take 1 .value

/-- A token that may be a key and is read by a reader of its own. -/
def readWith (l : Lexer) (read : Cursor → Except Fault (Token × Cursor)) : Step := do
  let l ← l.noteKey
  match read l.cursor with
  | .ok (t, cursor) => return { l with keyAllowed := false, cursor }.push t
  | .error fault => .error fault

/-- A block scalar. -/
def readBlockScalar (l : Lexer) : Step := do
  let l ← { l with keyAllowed := true }.abandonKey
  match Block.read? l.indent l.cursor with
  | .ok (text, cursor) => return { l with cursor }.push (.scalar (String.ofList text) false)
  | .error fault => .error fault

/-- A plain scalar. -/
def readPlain (l : Lexer) : Step := do
  let l ← l.noteKey
  let ctx : Plain.Context := ⟨!l.inBlock, l.indent + 1, l.version⟩
  let read := Plain.read ctx l.cursor
  return { l with keyAllowed := read.broken, cursor := read.after }.push
    (.scalar (String.ofList read.text) true)

/-- Whether the colon that comes next is one of a value. Between brackets it is one whatever follows
it, except where the rules of the current version ask for a blank after it. -/
def isValue (l : Lexer) : Bool :=
  let spaced := isEndOrBlank (l.cursor.peekAt 1)
  match l.brackets.head? with
  | none => spaced
  | some bracket =>
    if l.version = .legacy then true
    else if bracket = .square ∨ l.queue.getLast? = some .value then spaced
    else true

/-- Reads the next token. -/
def readNext (l : Lexer) : Step := do
  let l := skipToToken (l.cursor.rest.length + 1) l.skipMark
  let l ← l.dropStale
  let l := l.endBlocks l.cursor.column
  let c := l.cursor.peek
  let next := l.cursor.peekAt 1
  let spaced := isEndOrBlank next
  let atStart := l.cursor.column == 0
  if c = nul then l.readFinish
  else if c = '%' ∧ atStart then l.readDirective
  else if atStart ∧ l.cursor.atMark '-' then l.readDocumentStart
  else if atStart ∧ l.cursor.atMark '.' then l.readDocumentEnd
  else if c = '[' then l.readOpen .square .flowSequenceStart
  else if c = '\x7b' then l.readOpen .curly .flowMappingStart
  else if c = ']' then l.readClose .flowSequenceEnd
  else if c = '\x7d' then l.readClose .flowMappingEnd
  else if c = ',' then l.readFlowEntry
  else if c = '-' ∧ spaced then l.readBlockEntry
  else if c = '?' ∧ (!l.inBlock || spaced) then l.readKey
  else if c = ':' ∧ l.isValue then l.readValue
  else if c = '*' then
    l.readWith fun cursor => (readAnchor? cursor).map fun (name, after) => (.alias name, after)
  else if c = '&' then
    l.readWith fun cursor => (readAnchor? cursor).map fun (name, after) => (.anchor name, after)
  else if c = '!' then
    l.readWith fun cursor => (readTag? l.version cursor).map fun (tag, after) => (.tag tag, after)
  else if (c = '|' ∨ c = '>') ∧ l.inBlock then l.readBlockScalar
  else if c = '\'' ∨ c = '"' then
    l.readWith fun cursor =>
      (Quoted.read? cursor).map fun (text, after) => (.scalar (String.ofList text) false, after)
  else if Plain.starts (!l.inBlock) l.version c next then l.readPlain
  else .error .badToken

/-! ## Giving out tokens -/

/-- Whether the first token that was read may still get a key in front of it. -/
def awaitsKey (l : Lexer) : Bool :=
  l.pending.any fun p => p.2.number == l.given

/-- Gives out all tokens that are left. A fault is the last of them. -/
def drain : (fuel : Nat) → Lexer → List Token
  | 0, _ => []
  | fuel + 1, l =>
    if l.finished then l.queue
    else
      match l.queue with
      | [] =>
        match l.readNext with
        | .error fault => [.broken fault]
        | .ok l => drain fuel l
      | t :: queue =>
        match l.dropStale with
        | .error fault => [.broken fault]
        | .ok l =>
          if l.awaitsKey then
            match l.readNext with
            | .error fault => [.broken fault]
            | .ok l => drain fuel l
          else t :: drain fuel { l with queue, given := l.given + 1 }

end Lexer

/-- The tokens of a text. Every token but those of indentation takes a character, and no more blocks
end than have started, so that the bound is never reached. -/
def Token.ofText (version : Version) (text : List Char) : List Token :=
  Lexer.drain (8 * text.length + 16) (.start version text)

end ClusterConfig.Yaml
