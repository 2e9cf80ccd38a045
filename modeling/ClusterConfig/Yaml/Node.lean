/-!
# Nodes

The graph of a document: scalars, sequences and mappings, each with a tag that says what kind of
value it denotes. Nodes know each other by number, so that a node can stand in several places, also
inside itself.

Main definitions:

- `Yaml.Tag`: the tags.
- `Yaml.Node`: the nodes.
- `Yaml.Graph`: nodes by number.
-/

namespace ClusterConfig.Yaml

/-- What kind of value a node denotes. -/
inductive Tag where
  | null
  | bool
  | int
  | float
  | binary
  | timestamp
  | str
  | seq
  | map
  | set
  | omap
  | pairs
  /-- The key that merges other mappings into its own. -/
  | merge
  /-- The key of a default value. -/
  | value
  /-- Anything else. -/
  | other (name : String)
  deriving DecidableEq, Repr

namespace Tag

/-- What the names of the standard tags start with. -/
def space : String := "tag:yaml.org,2002:"

/-- The standard tags, by their names. -/
def standard : List (String × Tag) :=
  [("null", null), ("bool", bool), ("int", int), ("float", float), ("binary", binary),
    ("timestamp", timestamp), ("str", str), ("seq", seq), ("map", map), ("set", set),
    ("omap", omap), ("pairs", pairs), ("merge", merge), ("value", value)]

/-- The tag of a full name. -/
def ofName (name : String) : Tag :=
  match standard.find? fun entry => space ++ entry.1 == name with
  | some entry => entry.2
  | none => other name

end Tag

/-- The number of a node among all nodes of a graph. -/
abbrev NodeId := Nat

/-- What a node is made of. -/
inductive Content where
  | scalar (text : String)
  | sequence (items : List NodeId)
  | mapping (members : List (NodeId × NodeId))
  deriving Repr

/-- A node of a document. -/
structure Node where
  tag : Tag
  content : Content
  /-- The members among those of a mapping that come from other mappings, once they were merged. -/
  merged : List (NodeId × NodeId)
  deriving Repr

namespace Node

/-- A node into which nothing was merged. -/
def plain (tag : Tag) (content : Content) : Node :=
  ⟨tag, content, []⟩

/-- The node that stands where nothing is written. -/
def absent : Node :=
  plain .null (.scalar "")

instance : Inhabited Node :=
  ⟨absent⟩

/-- The members of a mapping; anything else has none. -/
def members (n : Node) : List (NodeId × NodeId) :=
  match n.content with
  | .mapping ms => ms
  | _ => []

/-- Whether the node is a mapping. -/
def isMapping (n : Node) : Bool :=
  match n.content with
  | .mapping _ => true
  | _ => false

/-- Whether the node denotes a collection, by its tag. -/
def isCollection (n : Node) : Bool :=
  match n.tag with
  | .seq | .map | .set | .omap | .pairs => true
  | _ => false

end Node

/-- The nodes of documents by their numbers. -/
abbrev Graph := Array Node

namespace Graph

/-- The node with a number. -/
def node (g : Graph) (n : NodeId) : Node :=
  g.getD n .absent

/-- The graph with one more node, which has the number of nodes before as its own. -/
def add (g : Graph) (node : Node) : NodeId × Graph :=
  (g.size, g.push node)

/-- The graph with another node under a number. -/
def update (g : Graph) (n : NodeId) (node : Node) : Graph :=
  g.setIfInBounds n node

/-- The tag of the node with a number. -/
def tag (g : Graph) (n : NodeId) : Tag :=
  (g.node n).tag

/-- How many members all nodes have together. -/
def countMembers (g : Graph) : Nat :=
  g.foldl (fun count node => count + node.members.length) 0

end Graph

end ClusterConfig.Yaml
