import ClusterConfig.Yaml.Work

/-!
# Merges

A merge key in a mapping brings in the members of another mapping, or of several. They are put in
front of the members of the mapping itself, once and for all: the node is changed, and so is every
mapping that was merged into it.

Main definitions:

- `Yaml.merge`: brings in what a mapping merges.
-/

namespace ClusterConfig.Yaml

/-- The place of the first merge key among members, which start at a place. The keys of default
values before it become texts. -/
def nextMerge : (place : Nat) → List (NodeId × NodeId) → Maker (Option Nat)
  | _, [] => return none
  | place, (key, _) :: ms => do
    let node ← Maker.node key
    match node.tag with
    | .merge => return some place
    | .value =>
      Maker.setNode key { node with tag := .str }
      nextMerge (place + 1) ms
    | _ => nextMerge (place + 1) ms

/-- The nodes of the mappings that a merge key with a value brings in. -/
def mergedNodes (n : NodeId) : Maker (List NodeId) := do
  match (← Maker.node n).content with
  | .sequence items => return items
  | _ => return [n]

/-- Puts members in front of those of a mapping, if there are any. -/
def putInFront (n : NodeId) (merged : List (NodeId × NodeId)) : Maker Unit := do
  if !merged.isEmpty then
    let node ← Maker.node n
    Maker.setNode n { node with content := .mapping (merged ++ node.members), merged }

/-- Brings in what a mapping merges from the member at a place on, given what was merged before.
Whatever is merged must be a mapping, of which the merges are brought in first. Of several mappings
the earlier ones come later, so that they prevail. -/
def mergeFrom : (fuel : Nat) → (place : Nat) → (merged : List (NodeId × NodeId)) → NodeId →
    Maker Unit
  | 0, _, _, _ => pure ()
  | fuel + 1, place, merged, n => do
    let members := (← Maker.node n).members
    match ← nextMerge place (members.drop place) with
    | none => putInFront n merged
    | some place =>
      if !merged.isEmpty then throw .duplicateKey
      let node ← Maker.node n
      Maker.setNode n { node with content := .mapping (members.eraseIdx place) }
      let sources ← mergedNodes ((members[place]?.map (·.2)).getD n)
      let parts ← sources.mapM fun source => do
        if !(← Maker.node source).isMapping then throw .badMerge
        mergeFrom fuel 0 [] source
        return (← Maker.node source).members
      mergeFrom fuel place parts.reverse.flatten n

/-- Brings in what a mapping merges. Each merge key is taken out before what it merges is looked at,
so that there are never more steps than members. -/
def merge (n : NodeId) : Maker Unit := do
  let count := (← get).graph.countMembers
  mergeFrom (count + 2) 0 [] n

end ClusterConfig.Yaml
