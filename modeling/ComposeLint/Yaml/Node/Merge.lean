import ComposeLint.Yaml.Fault
import ComposeLint.Yaml.Node.Basic

/-!
Merge keys. In a mapping the key `<<` takes in the pairs of another mapping, or of a list of
mappings, of which the first wins. Merging works on the nodes: the key disappears, and the pairs
that it takes in are put in front of the mapping's own, which win over them.
-/

namespace ComposeLint.Yaml.Node

abbrev Merging := StateT (Array Node) (Except Fault)

/-- The pairs of a mapping, `none` for other nodes. -/
def pairs? (nodes : Array Node) (id : NodeId) : Option NodePairs :=
  match contentOf nodes id with
  | .mapping _ pairs => some pairs
  | _ => none

/-- The pairs that a mapping has taken in. -/
def mergedOf (nodes : Array Node) (id : NodeId) : NodePairs :=
  match contentOf nodes id with
  | .mapping merged _ => merged
  | _ => []

def setContent (id : NodeId) (content : Content) : Merging Unit :=
  modify fun nodes => nodes.modify id fun n => { n with content }

/-- Beside other keys an equals sign is a string like any other. -/
def settleStandIns (keys : List NodeId) : Merging Unit :=
  modify fun nodes =>
    (keys.filter (kindOf nodes · == .standIn)).foldl (fun nodes key =>
      nodes.modify key fun n => { n with kind := .string }) nodes

/-- The pairs that a list of mappings has in all, those of the last first. -/
def pairsOfAll (pairsOf : NodeId → Merging NodePairs) (ids : List NodeId) : Merging NodePairs := do
  return (← ids.mapM pairsOf).reverse.flatten

mutual

/-- Resolves the merge keys of a mapping. Each one disappears before its source is looked at, so
their number bounds the work even where a mapping takes in itself. -/
def merge : Nat → NodeId → Merging Unit
  | 0, _ => throw .malformed
  | fuel + 1, id => mergeFrom fuel id 0 []

/-- Goes on at the pair of this index, `merged` having been taken in before. Only one merge key may
take in anything. -/
def mergeFrom : Nat → NodeId → Nat → NodePairs → Merging Unit
  | 0, _, _, _ => throw .malformed
  | fuel + 1, id, index, merged => do
    let nodes ← get
    let pairs ← pairs? nodes id
    let isMerge := fun ((key, _) : NodeId × NodeId) => kindOf nodes key == .merge
    let (plain, rest) := (pairs.drop index).span (!isMerge ·)
    settleStandIns (plain.map (·.1))
    match rest with
    | [] => if !merged.isEmpty then setContent id (.mapping merged (merged ++ pairs))
    | (_, source) :: rest =>
      if !merged.isEmpty then throw .malformed
      setContent id (.mapping (mergedOf nodes id) (pairs.take index ++ plain ++ rest))
      let more ← mergeSource fuel source
      mergeFrom fuel id (index + plain.length) more

/-- The pairs that a merge key takes in from its value. -/
def mergeSource : Nat → NodeId → Merging NodePairs
  | 0, _ => throw .malformed
  | fuel + 1, source => do
    match contentOf (← get) source with
    | .mapping _ _ => mergedPairs fuel source
    | .sequence items => pairsOfAll (mergedPairs fuel) items
    | _ => throw .malformed

/-- The pairs of a mapping whose own merge keys are resolved first. -/
def mergedPairs : Nat → NodeId → Merging NodePairs
  | 0, _ => throw .malformed
  | fuel + 1, id => do
    let _ ← pairs? (← get) id
    merge fuel id
    pairs? (← get) id

end

/-- Fuel for this mapping: two steps if it has no merge key; else for each pair of all mappings the
four functions above may be passed once, and once more at the end. -/
def mergeFuel (nodes : Array Node) (id : NodeId) : Nat :=
  if ((pairs? nodes id).getD []).any fun (key, _) => kindOf nodes key == .merge then
    5 * (nodes.foldl (fun n node =>
      match node.content with
      | .mapping _ pairs => n + pairs.length
      | _ => n) 0) + 5
  else 2

/-- The nodes with the merge keys of this mapping resolved, and of all that it takes in. -/
def resolveMerges (nodes : Array Node) (id : NodeId) : Except Fault (Array Node) := do
  let ((), nodes) ← (merge (mergeFuel nodes id) id).run nodes
  return nodes

end ComposeLint.Yaml.Node
