import ComposeLint.Yaml.Node.Merge
import ComposeLint.Yaml.Value.Scalar

/-!
Building what the nodes of a document denote. Each node is built once, however many aliases stand
for it. Lists and mappings are first made empty and filled later, in the order in which they were
made, so that a node may contain itself; but a key has to be known at once, so it is built together
with all that it holds, and where it holds itself that part of it is null.
-/

namespace ComposeLint.Yaml

/-- A part of a list or mapping is known by its node. One that was not there yet is null. -/
abbrev Part := Option NodeId

/-- What was built for a node. -/
inductive Built
  | atom (a : Atom)
  | list (items : List Part)
  | pairs (items : List (Part × Part))
  | mapping (pairs : List (Key × Part))
  | orderedMapping (pairs : List (Key × Part))
  | set
deriving Repr

namespace Built

/-- The values that may change and so are no keys; a list can be turned into one that may not. -/
def mutable? : Built → Option Mutable
  | .atom _ => none
  | .list _ => some .list
  | .pairs _ => some .list
  | .mapping _ => some .mapping
  | .orderedMapping _ => some .orderedMapping
  | .set => some .set

/-- The state in which a list or mapping of a kind is made. -/
def start? : Kind → Option Built
  | .sequence => some (.list [])
  | .pairs => some (.pairs [])
  | .mapping => some (.mapping [])
  | .orderedMapping => some (.orderedMapping [])
  | .set => some .set
  | _ => none

end Built

/-- `active` are the nodes that are being built, `waiting` those that are to be filled. While
`isWhole` holds, nothing is left to be filled later. -/
structure Builder where
  version : Version
  nodes : Array Node
  built : Array (Option Built)
  active : List NodeId
  waiting : List NodeId
  isWhole : Bool

namespace Builder

abbrev Building := StateT Builder (Except Fault)

def start (g : Graph) : Builder where
  version := g.version
  nodes := g.nodes
  built := Array.replicate g.nodes.size none
  active := []
  waiting := []
  isWhole := false

def built? (b : Builder) (id : NodeId) : Option Built := (b.built[id]?).join

def store (id : NodeId) (value : Built) : Building Unit :=
  modify fun b => { b with built := b.built.setIfInBounds id (some value) }

/-! ### Scalars -/

/-- The text of a scalar. A mapping with a stand-in has the text of that. -/
def text? (nodes : Array Node) : Nat → NodeId → Option Text
  | 0, _ => none
  | fuel + 1, id =>
    match Node.contentOf nodes id with
    | .scalar text => some text
    | .sequence _ => none
    | .mapping _ pairs => do
      let (_, value) ← pairs.find? fun (key, _) => Node.kindOf nodes key == .standIn
      text? nodes fuel value

def atom (b : Builder) (id : NodeId) : Except Fault Atom := do
  let kind := Node.kindOf b.nodes id
  let text ←
    match kind, Node.contentOf b.nodes id with
    | .moment, .scalar text => pure text
    | .moment, _ => throw .malformed
    | _, _ => require (text? b.nodes (b.nodes.size + 1) id)
  Atom.ofText b.version kind text

/-! ### Keys -/

/-- The key that a part of a key is. -/
def keyPart (b : Builder) : Part → Except Fault Key
  | none => .ok (.atom .null)
  | some id =>
    match b.built? id with
    | none => .ok (.atom .null)
    | some (.atom a) => .ok (Key.ofAtom id a)
    | some value => .error (.unhashable (value.mutable?.getD .list))

/-- The key that a value is; a list is one if its items are. -/
def key (b : Builder) (part : Part) : Except Fault Key :=
  match part.bind b.built? with
  | some (.list items) => do return .tuple (← items.mapM b.keyPart)
  | some (.pairs items) => do
    return .tuple (← items.mapM fun (l, r) => do return .tuple [← b.keyPart l, ← b.keyPart r])
  | _ => b.keyPart part

/-- Mappings and sets are refused as keys before the value of the key is looked at. -/
def isRefused (b : Builder) (part : Part) : Bool :=
  match (part.bind b.built?).bind Built.mutable? with
  | some kind => kind != .list
  | none => false

/-! ### Lists and mappings -/

def sequence (b : Builder) (id : NodeId) : Except Fault (List NodeId) :=
  match Node.contentOf b.nodes id with
  | .sequence items => .ok items
  | _ => .error .malformed

/-- The only pair of a mapping, as in the items of an ordered mapping. -/
def onlyPair (b : Builder) (id : NodeId) : Except Fault (NodeId × NodeId) :=
  match Node.contentOf b.nodes id with
  | .mapping _ [pair] => .ok pair
  | _ => .error .malformed

/-- Puts a pair after others. A key may repeat one of them only where it is allowed to. -/
def putKey (mayRepeat : Bool) (pairs : List (Key × Part)) (keyPart value : Part) :
    Building (List (Key × Part)) := do
  let key ← (← get).key keyPart
  if !mayRepeat && Key.isIn pairs key then throw .malformed
  return Key.put pairs key value

mutual

/-- Builds a node, unless it is built already; one that is being built is not there yet. -/
def build : Nat → Bool → NodeId → Building Part
  | 0, _, _ => throw .malformed
  | fuel + 1, asWhole, id => do
    if ((← get).built? id).isSome then return some id
    let active := (← get).active
    if active.contains id then return none
    let isWhole := (← get).isWhole
    modify fun b => { b with active := id :: active, isWhole := isWhole || asWhole }
    make fuel id
    modify fun b => { b with active, isWhole }
    return some id

/-- Makes what a node denotes, filled at once or left to be filled later. -/
def make : Nat → NodeId → Building Unit
  | 0, _ => throw .malformed
  | fuel + 1, id => do
    let b ← get
    match Built.start? (Node.kindOf b.nodes id) with
    | none => store id (.atom (← b.atom id))
    | some empty =>
      if b.isWhole then fill fuel id
      else
        store id empty
        modify fun b => { b with waiting := b.waiting ++ [id] }

/-- Fills a list or mapping with its parts. -/
def fill : Nat → NodeId → Building Unit
  | 0, _ => throw .malformed
  | fuel + 1, id => do
    let b ← get
    match Node.kindOf b.nodes id with
    | .sequence => store id (.list (← (← b.sequence id).mapM (build fuel false)))
    | .mapping => store id (.mapping (← fillMapping fuel id))
    | .set =>
      discard (fillMapping fuel id)
      store id .set
    | .orderedMapping =>
      let pairs ← (← b.sequence id).foldlM (fun pairs item => do
        let (k, v) ← b.onlyPair item
        let keyPart ← build fuel false k
        let key ← (← get).keyPart keyPart
        if Key.isIn pairs key then throw .repeatedKey
        return Key.put pairs key (← build fuel false v)) []
      store id (.orderedMapping pairs)
    | .pairs =>
      let items ← (← b.sequence id).mapM fun item => do
        let (k, v) ← b.onlyPair item
        return (← build fuel false k, ← build fuel false v)
      store id (.pairs items)
    | _ => throw .malformed

/-- The pairs of a mapping, first those that it takes in. Its own keys have to differ unless it
takes in anything. -/
def fillMapping : Nat → NodeId → Building (List (Key × Part))
  | 0, _ => throw .malformed
  | fuel + 1, id => do
    let nodes ← Node.resolveMerges (← get).nodes id
    modify fun b => { b with nodes }
    match Node.contentOf nodes id with
    | .mapping merged pairs =>
      let mayRepeat := !merged.isEmpty
      let taken ← merged.foldlM (fillPair fuel mayRepeat) []
      let own ← pairs.foldlM (fillPair fuel mayRepeat) []
      return Key.putAll taken own
    | _ => throw .malformed

/-- Adds a pair to those before it: its key is built as a whole, and looked at once the value is
there too. -/
def fillPair : Nat → Bool → List (Key × Part) → NodeId × NodeId → Building (List (Key × Part))
  | 0, _, _, _ => throw .malformed
  | fuel + 1, mayRepeat, pairs, (k, v) => do
    let key ← build fuel true k
    if (← get).isRefused key then throw .malformed
    let value ← build fuel false v
    putKey mayRepeat pairs key value

end

/-- Each function above is passed at most once for each node that is being built. -/
def depth (g : Graph) : Nat := 5 * (g.nodes.size + 1)

/-- Fills what waits to be filled, which each node does at most once. -/
def fillWaiting (depth : Nat) : Nat → Building Unit
  | 0 => return ()
  | fuel + 1 => do
    match (← get).waiting with
    | [] => return ()
    | id :: rest =>
      modify fun b => { b with waiting := rest }
      fill depth id
      fillWaiting depth fuel

/-- All that is built for a document, and the part that its root is. -/
def run (g : Graph) : Except Fault (Part × Builder) :=
  (do
    let root ← build (depth g) false g.root
    fillWaiting (depth g) (g.nodes.size + 1)
    return root : Building Part).run (start g)

end Builder

end ComposeLint.Yaml
