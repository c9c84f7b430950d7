import ComposeLint.Yaml.Resolution

/-!
The nodes of a YAML document. They form a graph rather than a tree, since an alias stands for a node
that was given a name before, even for one that it is inside of. So nodes are kept in an array, and
their contents refer to them by their places in it.
-/

namespace ComposeLint.Yaml

abbrev NodeId := Nat

abbrev NodePairs := List (NodeId × NodeId)

/-- The content of a node. Of the pairs of a mapping, `merged` are those that it took in from
others; they come first in `pairs` as well. -/
inductive Content
  | scalar (text : Text)
  | sequence (items : List NodeId)
  | mapping (merged pairs : NodePairs)
deriving Repr

structure Node where
  kind : Kind
  content : Content
deriving Repr

namespace Node

/-- What an absent node counts as. -/
def empty : Node := ⟨.null, .scalar []⟩

/-- The node at a place; every place that is in use has one. -/
def nodeAt (nodes : Array Node) (id : NodeId) : Node := nodes[id]?.getD empty

def kindOf (nodes : Array Node) (id : NodeId) : Kind := (nodeAt nodes id).kind

def contentOf (nodes : Array Node) (id : NodeId) : Content := (nodeAt nodes id).content

end Node

/-- A document by its nodes. -/
structure Graph where
  version : Version
  nodes : Array Node
  root : NodeId
deriving Repr

end ComposeLint.Yaml
