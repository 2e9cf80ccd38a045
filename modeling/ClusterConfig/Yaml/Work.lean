import ClusterConfig.Value
import ClusterConfig.Yaml.Fault
import ClusterConfig.Yaml.Node

/-!
# Values in the making

A collection can hold itself and can be needed before all its parts are known. So while values are
made, a collection is known by the number of its node, and what it holds so far is kept apart.

Main definitions:

- `Yaml.Part`: what stands for a value in the making.
- `Yaml.Collection`: what a collection holds so far.
- `Yaml.Work`: all that has been made and all that is still to do.
- `Yaml.Maker`: steps that change the work and can fail. What was done before a fault stays done.
-/

namespace ClusterConfig.Yaml

/-- What stands for a value in the making. -/
inductive Part where
  /-- A value that holds no others. -/
  | leaf (v : Value)
  /-- The collection that is made for a node. -/
  | ofNode (n : NodeId)
  /-- The two values of a pair. -/
  | pair (first second : Part)

/-- What a collection holds so far. Keys are whole values. -/
inductive Collection where
  | list (items : List Part)
  | map (members : List (Value × Part))
  | record (members : List (Value × Part))
  | set (items : List Value)

/-- How far the value of a node has come. -/
inductive Progress where
  | untouched
  | begun
  | made (p : Part)

/-- All that has been made and all that is still to do. -/
structure Work where
  graph : Graph
  /-- How far the value of each node has come. -/
  progress : Array Progress
  /-- What the collection of each node holds. -/
  contents : Array Collection
  /-- The collections that are put off, the last one first. -/
  later : List NodeId
  /-- Whether no more are put off. -/
  eager : Bool

namespace Work

/-- The work on the nodes of a document before anything is made. -/
def start (graph : Graph) (eager : Bool) : Work where
  graph
  progress := Array.replicate graph.size .untouched
  contents := Array.replicate graph.size (.list [])
  later := []
  eager

/-- The work as it goes on later. -/
def resume (w : Work) (eager : Bool) : Work :=
  { w with eager }

/-- Whether nothing is put off. -/
def isIdle (w : Work) : Bool :=
  w.later.isEmpty

/-- What the collection of a node holds. -/
def content (w : Work) (n : NodeId) : Collection :=
  w.contents.getD n (.list [])

end Work

/-- A step that changes the work and can fail. -/
abbrev Maker := ExceptT Fault (StateM Work)

namespace Maker

/-- The node with a number. -/
def node (n : NodeId) : Maker Node := do
  return (← get).graph.node n

/-- Puts another node under a number. -/
def setNode (n : NodeId) (node : Node) : Maker Unit :=
  modify fun w => { w with graph := w.graph.update n node }

/-- How far the value of a node has come. -/
def progress (n : NodeId) : Maker Progress := do
  return (← get).progress.getD n .untouched

/-- Notes how far the value of a node has come. -/
def setProgress (n : NodeId) (p : Progress) : Maker Unit :=
  modify fun w => { w with progress := w.progress.setIfInBounds n p }

/-- What the collection of a node holds. -/
def content (n : NodeId) : Maker Collection := do
  return (← get).content n

/-- Sets what the collection of a node holds. -/
def setContent (n : NodeId) (c : Collection) : Maker Unit :=
  modify fun w => { w with contents := w.contents.setIfInBounds n c }

/-- Puts a collection off. -/
def putOff (n : NodeId) : Maker Unit :=
  modify fun w => { w with later := n :: w.later }

/-- Whether no more collections are put off. -/
def isEager : Maker Bool := do
  return (← get).eager

/-- Says whether no more collections are put off. -/
def setEager (eager : Bool) : Maker Unit :=
  modify fun w => { w with eager }

/-- All collections that are put off, in order. None is from here on. -/
def takeLater : Maker (List NodeId) := do
  let w ← get
  set { w with later := [] }
  return w.later.reverse

/-- A result or its fault. -/
def ofExcept {α : Type} : Except Fault α → Maker α
  | .ok a => pure a
  | .error fault => throw fault

end Maker

end ClusterConfig.Yaml
