import ClusterConfig.Yaml.Merge
import ClusterConfig.Yaml.Scalar

/-!
# Meanings of nodes

How the values that the nodes of a document denote are made. Every collection is put off until those
around it are done, keys apart: those are made at once with all that they hold, for the members of a
mapping are told apart by them. Where a node is needed for its own value it counts as null, unless
it is a collection that was put off.

Main definitions:

- `Yaml.make`: makes the value of a node, or puts it off.
- `Yaml.fill`: makes what a collection holds.
- `Yaml.Work.round`: makes all that is put off now.
- `Yaml.Work.finish`: makes all that is put off, round after round.
-/

namespace ClusterConfig.Yaml

/-! ## Scalars -/

/-- The text of a node that should be a scalar: its own, or that of the first default value of a
mapping. Default values that lead back to where they started have no end. -/
def Graph.scalarText? (g : Graph) : (fuel : Nat) → NodeId → Except Fault String
  | 0, _ => .error .endless
  | fuel + 1, n =>
    match (g.node n).content with
    | .scalar text => .ok text
    | .sequence _ => .error .wrongKind
    | .mapping ms =>
      match ms.find? fun member => g.tag member.1 = .value with
      | some (_, value) => scalarText? g fuel value
      | none => .error .wrongKind

/-- The value of a node that denotes no collection. -/
def Graph.scalarValue? (g : Graph) (v : Version) (n : NodeId) : Except Fault Value :=
  let node := g.node n
  match node.tag, node.content with
  | .merge, _ | .value, _ | .other _, _ => .error .unknownTag
  | .timestamp, .scalar text => Scalar.time? text
  | .timestamp, _ => .error .badTime
  | tag, _ => do
    let text ← g.scalarText? (g.size + 1) n
    Scalar.value? v tag n text

/-! ## Keys -/

/-- The value of a part that holds no collections. -/
def Part.whole? : Part → Option Value
  | .leaf v => some v
  | .ofNode _ => none
  | .pair p q => do
    let v ← p.whole?
    let w ← q.whole?
    return .tuple [v, w]

/-- What the key of a member is told apart by: a list counts as the tuple of what it holds at this
time, which is none if it holds collections. Other collections are no keys. -/
def keyOf (p : Part) : Maker (Option Value) := do
  match p with
  | .ofNode n =>
    match ← Maker.content n with
    | .list items => return (items.mapM Part.whole?).map .tuple
    | _ => throw .badKey
  | p => return p.whole?

/-- Whether a key equals that of one of the members. -/
def isKnown (key : Value) (members : List (Value × Part)) : Bool :=
  members.any fun member => Value.sameInside key member.1

/-! ## Collections -/

section Fill

variable (make : Bool → NodeId → Maker Part)

/-- The members that key and value nodes denote, after those that are known. If they have to be
distinct no two may have one key, else the last value counts. -/
def makeMembers (distinct : Bool) : (known : List (Value × Part)) → List (NodeId × NodeId) →
    Maker (List (Value × Part))
  | known, [] => return known
  | known, (key, value) :: ms => do
    let key ← keyOf (← make true key)
    let value ← make false value
    match key with
    | none => throw .collectionInKey
    | some key =>
      if distinct && isKnown key known then throw .duplicateKey
      makeMembers distinct (Value.insert key value known) ms

/-- The members of a mapping, after what it merges was brought in. Those that were merged are made
before all others, and the keys of all others can be among theirs. -/
def makeMapping (n : NodeId) : Maker (List (Value × Part)) := do
  merge n
  let node ← Maker.node n
  if node.merged.isEmpty then makeMembers make true [] node.members
  else
    let merged ← makeMembers make false [] node.merged
    let all ← makeMembers make false [] node.members
    return all.foldl (fun members m => Value.insert m.1 m.2 members) merged

/-- The only member of a mapping. -/
def single (n : NodeId) : Maker (NodeId × NodeId) := do
  match (← Maker.node n).content with
  | .mapping [member] => return member
  | _ => throw .wrongKind

/-- Adds members to a record, each from a mapping of its own, in order. -/
def fillRecord (n : NodeId) : (known : List (Value × Part)) → List NodeId → Maker Unit
  | _, [] => return
  | known, item :: items => do
    let (key, value) ← single item
    match (← make false key).whole? with
    | none => throw .collectionInKey
    | some key =>
      if isKnown key known then throw .repeatedMember
      let known := known ++ [(key, ← make false value)]
      Maker.setContent n (.record known)
      fillRecord n known items

/-- Adds pairs to a list, each from a mapping of its own, in order. -/
def fillPairs (n : NodeId) : (known : List Part) → List NodeId → Maker Unit
  | _, [] => return
  | known, item :: items => do
    let (key, value) ← single item
    let known := known ++ [.pair (← make false key) (← make false value)]
    Maker.setContent n (.list known)
    fillPairs n known items

/-- Makes what the collection of a node holds. -/
def fill (n : NodeId) : Maker Unit := do
  let node ← Maker.node n
  match node.tag, node.content with
  | .seq, .sequence items => Maker.setContent n (.list (← items.mapM (make false)))
  | .map, .mapping _ => Maker.setContent n (.map (← makeMapping make n))
  | .set, .mapping _ => Maker.setContent n (.set ((← makeMapping make n).map (·.1)))
  | .omap, .sequence items => fillRecord make n [] items
  | .pairs, .sequence items => fillPairs make n [] items
  | _, _ => throw .wrongKind

end Fill

/-- A collection of the kind that a tag names, before it holds anything. -/
def Collection.empty : Tag → Collection
  | .map => .map []
  | .set => .set []
  | .omap => .record []
  | _ => .list []

/-! ## Nodes -/

/-- Makes the value of a node; collections are put off, unless the node is needed at once. -/
def make (v : Version) : (fuel : Nat) → (atOnce : Bool) → NodeId → Maker Part
  | 0, _, _ => throw .badStructure
  | fuel + 1, atOnce, n => do
    let progress ← Maker.progress n
    match progress with
    | .made p => return p
    | _ =>
      let eager ← Maker.isEager
      if atOnce then Maker.setEager true
      match progress with
      | .begun => return .leaf .null
      | _ =>
        Maker.setProgress n .begun
        let node ← Maker.node n
        let part ←
          if node.isCollection then do
            Maker.setContent n (.empty node.tag)
            if ← Maker.isEager then fill (make v fuel) n else Maker.putOff n
            pure (Part.ofNode n)
          else
            Part.leaf <$> Maker.ofExcept ((← get).graph.scalarValue? v n)
        Maker.setProgress n (.made part)
        if atOnce then Maker.setEager eager
        return part

/-! ## Rounds -/

/-- Makes the collections that are put off now; they can put off others. A node is begun only once,
so that there are never more steps into one another than nodes. -/
def makeRound (v : Version) : Maker Unit := do
  let fuel := (← get).graph.size + 2
  (← Maker.takeLater).forM (fill (make v fuel))

/-- A fault of work that goes on round after round, and how many rounds came before. -/
structure LateFault where
  rounds : Nat
  fault : Fault
  deriving DecidableEq, Repr

/-- The one of two faults that comes first. -/
def LateFault.earlier (failed other : LateFault) : LateFault :=
  if failed.rounds ≤ other.rounds then failed else other

namespace Work

/-- One round of work. What was done before a fault stays done. -/
def round (v : Version) (w : Work) : Except Fault Unit × Work :=
  (makeRound v).run w

/-- The work after several rounds. -/
def after (v : Version) : (rounds : Nat) → Work → Work
  | 0, w => w
  | rounds + 1, w => after v rounds (w.round v).2

/-- The work once nothing is put off any more, or the fault that comes before. -/
def finishWithin (v : Version) : (fuel : Nat) → Work → Except LateFault Work
  | 0, w => .ok w
  | fuel + 1, w =>
    if w.isIdle then .ok w
    else
      match w.round v with
      | (.error fault, _) => .error ⟨0, fault⟩
      | (.ok (), w) =>
        (finishWithin v fuel w).mapError fun failed => { failed with rounds := failed.rounds + 1 }

/-- The same without a bound: every round but the last begins a node. -/
def finish (v : Version) (w : Work) : Except LateFault Work :=
  w.finishWithin v (w.graph.size + 2)

end Work

end ClusterConfig.Yaml
