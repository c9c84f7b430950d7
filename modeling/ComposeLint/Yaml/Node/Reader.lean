import ComposeLint.Yaml.Lexer.Step
import ComposeLint.Yaml.Node.Basic
import ComposeLint.Yaml.Tag

/-!
Reading the only document of a text from its tokens. A node is entered when it begins, so that
aliases inside of it can refer to it, and so do those after it until its name is given away again.
-/

namespace ComposeLint.Yaml.Node

/-- The tokens still to be read, the nodes read so far, and what is known by name. -/
structure Reader where
  version : Version
  stream : TokenStream
  nodes : Array Node
  anchors : List (Text × NodeId)
  handles : List (Text × Text)

abbrev Reading := StateT Reader (Except Fault)

/-- The next token, `none` at the end. A fault of the text shows only where its tokens end. -/
def peek : Reading (Option Token) := do
  let stream := (← get).stream
  match stream.tokens, stream.fault? with
  | t :: _, _ => return some t
  | [], some fault => throw fault
  | [], none => return none

def drop : Reading Unit :=
  modify fun r => { r with stream := { r.stream with tokens := r.stream.tokens.drop 1 } }

/-- Takes this token if it is there. -/
def accept (t : Token) : Reading Bool := do
  if (← peek) == some t then
    drop
    return true
  else return false

/-- Takes exactly this token. -/
def expect (t : Token) : Reading Unit := do
  if !(← accept t) then throw .malformed

/-- Whether one of these tokens comes next. -/
def isNext (ts : List Token) : Reading Bool := return (← peek).any ts.contains

/-! ### Properties -/

def anchor? : Reading (Option Text) := do
  match ← peek with
  | some (.anchor name) =>
    drop
    return some name
  | _ => return none

def tag? : Reading (Option (Option Text × Text)) := do
  match ← peek with
  | some (.tag handle? suffix) =>
    drop
    return some (handle?, suffix)
  | _ => return none

/-- The tag of a handle and a suffix. -/
def tagOf (handle? : Option Text) (suffix : Text) : Reading Tag := do
  let handles := (← get).handles
  let start ←
    match handle? with
    | some handle => require (handles.lookup handle)
    | none => pure []
  let name ← Tag.decode (suffix.length + 1) suffix
  return Tag.ofName (start ++ name)

/-- The anchor and the tag of a node, in either order. -/
def properties : Reading (Option Text × Tag) := do
  let before? ← anchor?
  let tag? ← tag?
  let name? ← if before?.isNone && tag?.isSome then anchor? else pure before?
  match tag? with
  | some (handle?, suffix) => return (name?, ← tagOf handle? suffix)
  | none => return (name?, .none)

/-! ### Nodes -/

/-- Enters a node, under its name if it has one. -/
def enter (name? : Option Text) (n : Node) : Reading NodeId := do
  let id := (← get).nodes.size
  modify fun r =>
    { r with
      nodes := r.nodes.push n
      anchors := match name? with
        | some name => (name, id) :: r.anchors
        | none => r.anchors }
  return id

def enterEmpty : Reading NodeId := enter none .empty

/-- Completes a node. -/
def complete (id : NodeId) (content : Content) : Reading NodeId := do
  modify fun r => { r with nodes := r.nodes.modify id fun n => { n with content } }
  return id

/-- A list, whose items `items` reads. -/
def sequenceOf (name? : Option Text) (t : Tag) (items : Reading (List NodeId)) :
    Reading NodeId := do
  let id ← enter name? ⟨t.kindOfCollection .sequence, .sequence []⟩
  complete id (.sequence (← items))

/-- A mapping, whose pairs `pairs` reads. -/
def mappingOf (name? : Option Text) (t : Tag) (pairs : Reading NodePairs) : Reading NodeId := do
  let id ← enter name? ⟨t.kindOfCollection .mapping, .mapping [] []⟩
  complete id (.mapping [] (← pairs))

def scalarOf (name? : Option Text) (t : Tag) (isPlain : Bool) (text : Text) :
    Reading NodeId := do
  enter name? ⟨t.kindOfScalar (← get).version isPlain text, .scalar text⟩

/-- Whether a value comes next without a key, which only the present rules allow. -/
def isLoneValue : Reading Bool := do
  if (← get).version == .present then isNext [.value] else return false

/-- What follows where a node may be left out: the end of an entry in a block. -/
def blockEnds : List Token := [.key, .value, .blockEnd]

mutual

/-- A node. Blocks may open in a block only; a list of entries without a block of its own may follow
a key. -/
def read : Nat → Bool → Bool → Reading NodeId
  | 0, _, _ => throw .malformed
  | fuel + 1, inBlock, afterKey => do
    match ← peek with
    | some (.alias name) =>
      drop
      require ((← get).anchors.lookup name)
    | _ =>
      let (name?, t) ← properties
      readContent fuel inBlock afterKey name? t

/-- The content of a node. With an anchor or a tag it may be left out. -/
def readContent : Nat → Bool → Bool → Option Text → Tag → Reading NodeId
  | 0, _, _, _, _ => throw .malformed
  | fuel + 1, inBlock, afterKey, name?, t => do
    let next? ← peek
    if next? == some .blockEntry && afterKey then sequenceOf name? t (readEntries fuel)
    else if next? == some .flowSequenceStart then
      drop
      sequenceOf name? t (readFlowItems fuel true)
    else if next? == some .flowMappingStart then
      drop
      mappingOf name? t (readFlowPairs fuel true)
    else if next? == some .sequenceStart && inBlock then
      drop
      sequenceOf name? t do
        let items ← readEntries fuel
        expect .blockEnd
        return items
    else if next? == some .mappingStart && inBlock then
      drop
      mappingOf name? t (readPairs fuel)
    else
      match next? with
      | some (.scalar text isPlain) =>
        drop
        scalarOf name? t isPlain text
      | _ => if name?.isSome || t != .none then scalarOf name? t true [] else throw .malformed

/-- The entries of a list, each after its dash. -/
def readEntries : Nat → Reading (List NodeId)
  | 0 => throw .malformed
  | fuel + 1 => do
    if ← accept .blockEntry then
      let item ← if ← isNext (.blockEntry :: blockEnds) then enterEmpty else read fuel true false
      return item :: (← readEntries fuel)
    else return []

/-- A value after its colon; without a colon it is left out. -/
def readValue : Nat → Reading NodeId
  | 0 => throw .malformed
  | fuel + 1 => do
    if ← accept .value then
      if ← isNext blockEnds then enterEmpty else read fuel true true
    else enterEmpty

/-- The pairs of a block mapping. -/
def readPairs : Nat → Reading NodePairs
  | 0 => throw .malformed
  | fuel + 1 => do
    if ← accept .blockEnd then return []
    else
      let key ←
        if ← accept .key then
          if ← isNext blockEnds then enterEmpty else read fuel true true
        else if ← isLoneValue then enterEmpty
        else throw .malformed
      let value ← readValue fuel
      return (key, value) :: (← readPairs fuel)

/-- A node in brackets, left out before one of these tokens. -/
def readFlow : Nat → List Token → Reading NodeId
  | 0, _ => throw .malformed
  | fuel + 1, ends => do
    if ← isNext ends then enterEmpty else read fuel false false

/-- A comma, except before the first item. -/
def readComma : Nat → Bool → Reading Unit
  | _, true => return ()
  | _, false => expect .flowEntry

/-- The items up to the closing bracket. A single pair may be an item. -/
def readFlowItems : Nat → Bool → Reading (List NodeId)
  | 0, _ => throw .malformed
  | fuel + 1, isFirst => do
    if ← accept .flowSequenceEnd then return []
    else
      readComma fuel isFirst
      if ← accept .key then
        let item ← mappingOf none .none do
          let key ← readFlow fuel [.value, .flowEntry, .flowSequenceEnd]
          let value ←
            if ← accept .value then readFlow fuel [.flowEntry, .flowSequenceEnd] else enterEmpty
          return [(key, value)]
        return item :: (← readFlowItems fuel false)
      else if ← accept .flowSequenceEnd then return []
      else
        let item ← read fuel false false
        return item :: (← readFlowItems fuel false)

/-- The pairs up to the closing brace. A lone node is a key without a value. -/
def readFlowPairs : Nat → Bool → Reading NodePairs
  | 0, _ => throw .malformed
  | fuel + 1, isFirst => do
    if ← accept .flowMappingEnd then return []
    else
      readComma fuel isFirst
      if ← accept .flowMappingEnd then return []
      else
        let isMarked ← accept .key
        if isMarked || (← isLoneValue) then
          let key ←
            if isMarked then readFlow fuel [.value, .flowEntry, .flowMappingEnd] else enterEmpty
          let value ←
            if ← accept .value then readFlow fuel [.flowEntry, .flowMappingEnd] else enterEmpty
          return (key, value) :: (← readFlowPairs fuel false)
        else
          let key ← read fuel false false
          return (key, ← enterEmpty) :: (← readFlowPairs fuel false)

end

/-! ### Documents -/

def defaultHandles : List (Text × Text) :=
  [(['!'], ['!']), ("!!".toList, "tag:yaml.org,2002:".toList)]

/-- The directives before a document: at most one version, of which the minor part is given, and one
expansion for each handle. -/
def readDirectives : Nat → Option Nat → List (Text × Text) →
    Reading (Option Nat × List (Text × Text))
  | 0, _, _ => throw .malformed
  | fuel + 1, minor?, handles => do
    match ← peek with
    | some (.versionDirective major minor) =>
      if minor?.isSome || major != 1 then throw .malformed
      drop
      readDirectives fuel (some minor) handles
    | some (.tagDirective handle expansion) =>
      if (handles.lookup handle).isSome then throw .malformed
      drop
      readDirectives fuel minor? ((handle, expansion) :: handles)
    | some .otherDirective =>
      drop
      readDirectives fuel minor? handles
    | _ => return (minor?, handles)

/-- What the directives set. Of the versions whose major part is one, there are two. -/
def applyDirectives : Reading Unit := do
  let count := (← get).stream.tokens.length
  let (minor?, handles) ← readDirectives (count + 1) none []
  let minor := minor?.getD 2
  if minor != 1 && minor != 2 then throw (.minorVersion minor)
  modify fun r =>
    { r with version := Version.ofNumber 1 minor, handles := handles ++ defaultHandles }

/-- Drops the marks of ends that come next. -/
def dropEnds : Nat → Reading Unit
  | 0 => return ()
  | fuel + 1 => do if ← accept .documentEnd then dropEnds fuel

/-- The end of the only document. By the former rules its mark may be repeated. Directives of a
second document are read before it is refused. -/
def readEnd : Reading Unit := do
  let isMarked ← accept .documentEnd
  let isFormer := (← get).version == .former
  if isFormer then dropEnds (← get).stream.tokens.length
  match ← peek with
  | none => return ()
  | some t =>
    if isFormer || !isMarked || t.opensDocument then applyDirectives
    throw .malformed

/-- The only document of a stream; an empty stream has none. After directives the mark of its start
is required, and after the mark the document may be empty. -/
def readStream : Reading (Option NodeId) := do
  let fuel := 4 * (← get).stream.tokens.length + 8
  match ← peek with
  | none => return none
  | some t =>
    if t.opensDocument then
      applyDirectives
      expect .documentStart
      let isEmpty := (← peek).all fun t => t == .documentEnd || t.opensDocument
      let root ← if isEmpty then enterEmpty else read fuel true false
      readEnd
      return some root
    else
      let root ← read fuel true false
      readEnd
      return some root

end Node

/-- The document of a text, `none` if it is empty. -/
def Graph.ofText (text : Text) : Except Fault (Option Graph) := do
  let (root?, r) ← Node.readStream.run
    { version := .present, stream := TokenStream.ofText text, nodes := #[], anchors := []
      handles := Node.defaultHandles }
  return root?.map fun root => { version := r.version, nodes := r.nodes, root }

end ComposeLint.Yaml
