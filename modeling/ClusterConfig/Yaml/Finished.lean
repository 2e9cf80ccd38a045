import ClusterConfig.Yaml.Work

/-!
# Finished work

The value that finished work stands for. A collection that holds itself, or another one that does,
gets a mark of its own, and the mark stands for it inside. Any other collection is looked at once.

Main definitions:

- `Yaml.Work.value`: the value that a part stands for.
-/

namespace ClusterConfig.Yaml

/-- The values of the collections that were looked at. -/
abbrev Seen := StateM (Array (Option Value))

/-- A value, and whether no mark in it stands for a collection around it. -/
structure Shown where
  value : Value
  closed : Bool

namespace Shown

/-- A value without marks. -/
def whole (v : Value) : Shown :=
  ⟨v, true⟩

/-- A list of values. -/
def list (items : List Shown) : Shown :=
  ⟨.list (items.map value), items.all closed⟩

/-- A pair of values. -/
def pair (first second : Shown) : Shown :=
  ⟨.tuple [first.value, second.value], first.closed && second.closed⟩

/-- Members with whole keys, in the collection that is made of them. -/
def members (make : List (Value × Value) → Value) (ms : List (Value × Shown)) : Shown :=
  ⟨make (ms.map fun m => (m.1, m.2.value)), ms.all fun m => m.2.closed⟩

end Shown

namespace Work

/-- The value of what a collection holds, given that of parts. -/
def showContent (showPart : Part → Seen Shown) : Collection → Seen Shown
  | .list items => do return .list (← items.mapM showPart)
  | .map ms => do return .members .map (← ms.mapM fun m => do return (m.1, ← showPart m.2))
  | .record ms => do return .members .record (← ms.mapM fun m => do return (m.1, ← showPart m.2))
  | .set items => return .whole (.set items)

/-- The value of a part inside collections. -/
def showPart (w : Work) : (fuel : Nat) → (around : List NodeId) → Part → Seen Shown
  | 0, _, _ => return .whole .null
  | _ + 1, _, .leaf v => return .whole v
  | fuel + 1, around, .pair p q =>
    return .pair (← showPart w fuel around p) (← showPart w fuel around q)
  | fuel + 1, around, .ofNode n => do
    match (← get).getD n none with
    | some v => return .whole v
    | none =>
      if around.contains n then return ⟨.again n, false⟩
      else
        let shown ← showContent (showPart w fuel (n :: around)) (w.content n)
        if shown.closed then
          modify fun seen => seen.setIfInBounds n (some shown.value)
          return shown
        else return ⟨.knot n shown.value, false⟩

/-- The value that a part stands for. Collections stand inside each other at most as deep as there
are nodes, each one in a pair at most. -/
def value (w : Work) (p : Part) : Value :=
  let size := w.graph.size
  ((showPart w (2 * size + 2) [] p).run (Array.replicate size none)).1.value

end Work

end ClusterConfig.Yaml
