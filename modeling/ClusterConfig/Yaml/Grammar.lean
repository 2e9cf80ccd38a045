import ClusterConfig.Yaml.Schema
import ClusterConfig.Yaml.Token

/-!
# The grammar of documents

How tokens make up the graph of a document. Anchors name nodes for the aliases that follow, from the
start of the node on, so that a collection can hold itself. A node without a tag gets the one that
the schema in force gives it.

Reading can stop anywhere. What it stopped at is kept together with the version that was in force,
for it stays with a reader that goes on to the next text.

Main definitions:

- `Yaml.Halt`: where and why reading stopped.
- `Yaml.Builder`: the state of reading.
- `Yaml.Builder.node`: the node that starts here.
- `Yaml.Builder.document`: the only document of a text.
-/

namespace ClusterConfig.Yaml

/-- Why reading stopped, and the version that was in force there. -/
structure Halt where
  fault : Fault
  edition : Edition

/-- The state of reading. -/
structure Builder where
  rest : List Token
  /-- The version in force. -/
  edition : Edition
  /-- What the handles of tags stand for. -/
  handles : List (String × String)
  /-- The nodes under anchors. -/
  anchors : List (String × NodeId)
  graph : Graph

namespace Builder

/-- Stops with a fault. -/
def halt {α : Type} (b : Builder) (fault : Fault) : Except Halt α :=
  .error ⟨fault, b.edition⟩

/-- The next token; the text must not go wrong there. -/
def next (b : Builder) : Except Halt (Token × Builder) :=
  match b.rest with
  | [] => b.halt .badStructure
  | .broken fault :: _ => b.halt fault
  | token :: _ => .ok (token, b)

/-- Goes on after the next token. -/
def drop (b : Builder) : Builder :=
  { b with rest := b.rest.tail }

/-- The handles that every document knows. -/
def standardHandles : List (String × String) :=
  [("!", "!"), ("!!", Tag.space)]

/-- The state before a text is read. -/
def start (edition : Edition) (text : String) : Builder where
  rest := Token.ofText edition.version text.toList
  edition := edition
  handles := standardHandles
  anchors := []
  graph := #[]

/-- Adds a node, under an anchor if it has one. -/
def add (b : Builder) (anchor : Option String) (tag : Tag) (content : Content) :
    NodeId × Builder :=
  let (n, graph) := b.graph.add (.plain tag content)
  match anchor with
  | some name =>
    (n, { b with graph, anchors := (name, n) :: b.anchors.filter fun a => a.1 ≠ name })
  | none => (n, { b with graph })

/-- Gives a node its parts once they are known. -/
def fill (b : Builder) (n : NodeId) (content : Content) : Builder :=
  let tag := b.graph.tag n
  { b with graph := b.graph.update n (.plain tag content) }

/-- Adds the node that stands where nothing is written. -/
def addEmpty (b : Builder) : NodeId × Builder :=
  b.add none (Schema.tag b.edition.version "") (.scalar "")

/-- The properties in front of a node. -/
structure Properties where
  anchor : Option String
  tag : Option TagName

/-- The properties in front of a node: an anchor and a tag in any order. -/
def properties (b : Builder) : Except Halt (Properties × Builder) := do
  let (token, b) ← b.next
  match token with
  | .anchor name =>
    let (token, b) ← b.drop.next
    match token with
    | .tag t => return (⟨some name, some t⟩, b.drop)
    | _ => return (⟨some name, none⟩, b)
  | .tag t =>
    let (token, b) ← b.drop.next
    match token with
    | .anchor name => return (⟨some name, some t⟩, b.drop)
    | _ => return (⟨none, some t⟩, b)
  | _ => return (⟨none, none⟩, b)

/-- The full name of a tag. -/
def fullName (b : Builder) (t : TagName) : Except Halt String := do
  let start ←
    match t.handle with
    | none => pure ""
    | some handle =>
      match b.handles.lookup handle with
      | some meaning => pure meaning
      | none => b.halt .badStructure
  match decodeSuffix? t.suffix.toList with
  | some suffix => return start ++ String.ofList suffix
  | none => b.halt .badTagCode

/-- The tag of a collection, given the full name of the tag it was written with. -/
def collectionTag (default : Tag) (name : Option String) : Tag :=
  match name with
  | none => default
  | some name => if name = "!" then default else .ofName name

/-- The tag of a scalar, given the full name of the tag it was written with. -/
def scalarTag (b : Builder) (name : Option String) (text : String) (plain : Bool) : Tag :=
  match name with
  | none => if plain then Schema.tag b.edition.version text else .str
  | some name => if name = "!" then Schema.tag b.edition.version text else .ofName name

/-- Whether a token ends a member of a block mapping. -/
def endsMember : Token → Bool
  | .key | .value | .blockEnd => true
  | _ => false

/-- Whether a token ends an item of a sequence that is indented no further than its mapping. -/
def endsItem : Token → Bool
  | .blockEntry | .key | .value | .blockEnd => true
  | _ => false

/-- Whether a token ends a value between square brackets. -/
def endsFlowItem : Token → Bool
  | .flowEntry | .flowSequenceEnd => true
  | _ => false

/-- Whether a token ends a value between curly brackets. -/
def endsFlowMember : Token → Bool
  | .flowEntry | .flowMappingEnd => true
  | _ => false

/-- Whether members may leave out their key without a mark. -/
def allowsBareValue (b : Builder) : Bool :=
  b.edition.version.isModern

mutual

/-- The node that starts here. In a block it may be a block of its own, and below a key the items of
a sequence may stand without further indentation. -/
def node (block indentless : Bool) : (fuel : Nat) → Builder → Except Halt (NodeId × Builder)
  | 0, b => b.halt .badStructure
  | fuel + 1, b => do
    let (token, b) ← b.next
    match token with
    | .alias name =>
      match b.anchors.lookup name with
      | some target => return (target, b.drop)
      | none => b.halt .unknownAlias
    | _ =>
      let (props, b) ← b.properties
      let name ← match props.tag with
        | some t => (b.fullName t).map some
        | none => pure none
      let (token, b) ← b.next
      let sequence (b : Builder) := b.add props.anchor (collectionTag .seq name) (.sequence [])
      let mapping (b : Builder) := b.add props.anchor (collectionTag .map name) (.mapping [])
      match token with
      | .scalar text plain =>
        return b.drop.add props.anchor (b.scalarTag name text plain) (.scalar text)
      | .flowSequenceStart =>
        let (n, b) := sequence b.drop
        let (items, b) ← flowItems true fuel [] b
        return (n, b.fill n (.sequence items))
      | .flowMappingStart =>
        let (n, b) := mapping b.drop
        let (members, b) ← flowMembers true fuel [] b
        return (n, b.fill n (.mapping members))
      | token =>
        if indentless && token == .blockEntry then
          let (n, b) := sequence b
          let (items, b) ← looseItems fuel [] b
          return (n, b.fill n (.sequence items))
        else if block && token == .sequenceStart then
          let (n, b) := sequence b.drop
          let (items, b) ← blockItems fuel [] b
          return (n, b.fill n (.sequence items))
        else if block && token == .mappingStart then
          let (n, b) := mapping b.drop
          let (members, b) ← blockMembers fuel [] b
          return (n, b.fill n (.mapping members))
        else if props.anchor.isSome || props.tag.isSome then
          return b.add props.anchor (b.scalarTag name "" true) (.scalar "")
        else b.halt .badStructure

/-- A node in a block, or nothing if the next token ends it. -/
def blockValue (ends : Token → Bool) (indentless : Bool) :
    (fuel : Nat) → Builder → Except Halt (NodeId × Builder)
  | 0, b => b.halt .badStructure
  | fuel + 1, b => do
    let (token, b) ← b.next
    if ends token then return b.addEmpty else node true indentless fuel b

/-- A node between brackets, or nothing if the next token ends it. -/
def flowValue (ends : Token → Bool) : (fuel : Nat) → Builder → Except Halt (NodeId × Builder)
  | 0, b => b.halt .badStructure
  | fuel + 1, b => do
    let (token, b) ← b.next
    if ends token then return b.addEmpty else node false false fuel b

/-- The items of a block sequence. Those that are known come last first. -/
def blockItems : (fuel : Nat) → (known : List NodeId) → Builder →
    Except Halt (List NodeId × Builder)
  | 0, _, b => b.halt .badStructure
  | fuel + 1, known, b => do
    let (token, b) ← b.next
    match token with
    | .blockEntry =>
      let ends (t : Token) : Bool := t == .blockEntry || t == .blockEnd
      let (item, b) ← blockValue ends false fuel b.drop
      blockItems fuel (item :: known) b
    | .blockEnd => return (known.reverse, b.drop)
    | _ => b.halt .badStructure

/-- The items of a sequence that is indented no further than its mapping. -/
def looseItems : (fuel : Nat) → (known : List NodeId) → Builder →
    Except Halt (List NodeId × Builder)
  | 0, _, b => b.halt .badStructure
  | fuel + 1, known, b => do
    let (token, b) ← b.next
    match token with
    | .blockEntry =>
      let (item, b) ← blockValue endsItem false fuel b.drop
      looseItems fuel (item :: known) b
    | _ => return (known.reverse, b)

/-- The members of a block mapping. -/
def blockMembers : (fuel : Nat) → (known : List (NodeId × NodeId)) → Builder →
    Except Halt (List (NodeId × NodeId) × Builder)
  | 0, _, b => b.halt .badStructure
  | fuel + 1, known, b => do
    let (token, b) ← b.next
    match token with
    | .blockEnd => return (known.reverse, b.drop)
    | token =>
      let (key, b) ←
        if token == .key then blockValue endsMember true fuel b.drop
        else if token == .value && b.allowsBareValue then pure b.addEmpty
        else b.halt .badStructure
      let (token, b) ← b.next
      let (value, b) ←
        if token == .value then blockValue endsMember true fuel b.drop else pure b.addEmpty
      blockMembers fuel ((key, value) :: known) b

/-- The items between square brackets. -/
def flowItems (first : Bool) : (fuel : Nat) → (known : List NodeId) → Builder →
    Except Halt (List NodeId × Builder)
  | 0, _, b => b.halt .badStructure
  | fuel + 1, known, b => do
    let (token, b) ← b.next
    if token == .flowSequenceEnd then return (known.reverse, b.drop)
    else
      let (token, b) ←
        if first then pure (token, b)
        else if token == .flowEntry then b.drop.next
        else b.halt .badStructure
      if token == .flowSequenceEnd then return (known.reverse, b.drop)
      else
        let (item, b) ← if token == .key then flowPair fuel b.drop else node false false fuel b
        flowItems false fuel (item :: known) b

/-- A single member between square brackets, after its mark. -/
def flowPair : (fuel : Nat) → Builder → Except Halt (NodeId × Builder)
  | 0, b => b.halt .badStructure
  | fuel + 1, b => do
    let ends (t : Token) : Bool := t == .value || endsFlowItem t
    let (key, b) ← flowValue ends fuel b
    let (token, b) ← b.next
    let (value, b) ←
      if token == .value then flowValue endsFlowItem fuel b.drop else pure b.addEmpty
    return b.add none .map (.mapping [(key, value)])

/-- The members between curly brackets. -/
def flowMembers (first : Bool) : (fuel : Nat) → (known : List (NodeId × NodeId)) → Builder →
    Except Halt (List (NodeId × NodeId) × Builder)
  | 0, _, b => b.halt .badStructure
  | fuel + 1, known, b => do
    let (token, b) ← b.next
    if token == .flowMappingEnd then return (known.reverse, b.drop)
    else
      let (token, b) ←
        if first then pure (token, b)
        else if token == .flowEntry then b.drop.next
        else b.halt .badStructure
      if token == .flowMappingEnd then return (known.reverse, b.drop)
      else
        let (member, b) ← flowMember token fuel b
        flowMembers false fuel (member :: known) b

/-- A member between curly brackets, at the given token. -/
def flowMember (token : Token) :
    (fuel : Nat) → Builder → Except Halt ((NodeId × NodeId) × Builder)
  | 0, b => b.halt .badStructure
  | fuel + 1, b => do
    if token == .key || token == .value && b.allowsBareValue then
      let ends (t : Token) : Bool := t == .value || endsFlowMember t
      let (key, b) ← if token == .key then flowValue ends fuel b.drop else pure b.addEmpty
      let (token, b) ← b.next
      let (value, b) ←
        if token == .value then flowValue endsFlowMember fuel b.drop else pure b.addEmpty
      return ((key, value), b)
    else
      let (key, b) ← node false false fuel b
      let (value, b) := b.addEmpty
      return ((key, value), b)

end

/-! ## Documents -/

/-- What the directives in front of a document say. -/
structure Heading where
  version : Option Version
  handles : List (String × String)

/-- The directives in front of a document, after those that are known. -/
def directives : (fuel : Nat) → Heading → Builder → Except Halt (Heading × Builder)
  | 0, _, b => b.halt .badStructure
  | fuel + 1, known, b => do
    let (token, b) ← b.next
    match token with
    | .directive (.version v) =>
      if known.version.isSome || v.major != 1 then b.halt .badStructure
      else directives fuel { known with version := some v } b.drop
    | .directive (.tag handle meaning) =>
      if (known.handles.lookup handle).isSome then b.halt .badStructure
      else directives fuel { known with handles := known.handles ++ [(handle, meaning)] } b.drop
    | .directive .other => directives fuel known b.drop
    | _ => return (known, b)

/-- Puts a version in force, which must be one of those that are known. -/
def setVersion (b : Builder) (v : Version) : Except Halt Builder :=
  match Edition.ofVersion? v with
  | some edition => .ok { b with edition }
  | none => b.halt .unknownVersion

/-- Goes on after all marks at the end of documents that come next. -/
def skipEnds : (fuel : Nat) → Builder → Except Halt (Token × Builder)
  | 0, b => b.halt .badStructure
  | fuel + 1, b => do
    let (token, b) ← b.next
    if token.isDocumentEnd then skipEnds fuel b.drop else return (token, b)

/-- Whether a document starts here that says so; the flag is false at the end of the text. -/
def explicitStart (b : Builder) : Except Halt (Bool × Builder) := do
  let fuel := b.rest.length + 1
  let (token, b) ← skipEnds fuel b
  if token == .finish then return (false, b)
  else
    let (heading, b) ← directives fuel ⟨none, []⟩ b
    let b ← b.setVersion (heading.version.getD .current)
    let (token, b) ← b.next
    if token == .documentStart then
      return (true, { b.drop with handles := heading.handles ++ standardHandles })
    else b.halt .badStructure

/-- Whether a token is one that no document starts with unless it says so. -/
def needsStart : Token → Bool
  | .directive _ | .documentStart | .finish => true
  | _ => false

/-- The root of the first document, if there is one. -/
def root (b : Builder) : Except Halt (Option NodeId × Builder) := do
  let fuel := 4 * b.rest.length + 4
  let (token, b) ← b.next
  if needsStart token then
    let (found, b) ← b.explicitStart
    if found then
      let (token, b) ← b.next
      if needsStart token || token.isDocumentEnd then
        let (n, b) := b.addEmpty
        return (some n, b)
      else
        let (n, b) ← node true false fuel b
        return (some n, b)
    else return (none, b)
  else
    let (n, b) ← node true false fuel b
    return (some n, b)

/-- Makes sure that no further document follows, and nothing at all on the line of the mark at the
end of the first. By the rules of the current version a document can start after such a mark without
saying so. -/
def close (b : Builder) : Except Halt Builder := do
  let (token, b) ← b.next
  let ended := token.isDocumentEnd
  let b := if ended then b.drop else b
  let crowded := token == .documentEnd true
  let (token, b) ← b.next
  if crowded then b.halt .badStructure
  else if ended && b.edition != .legacy && !needsStart token then b.halt .secondDocument
  else
    let (found, b) ← b.explicitStart
    if found then b.halt .secondDocument else return b

/-- The only document of a text, if there is one. -/
def document (b : Builder) : Except Halt (Option NodeId × Builder) := do
  let (found, b) ← b.root
  match found with
  | none => return (none, b)
  | some n =>
    let b ← b.close
    return (some n, b)

end Builder

end ClusterConfig.Yaml
