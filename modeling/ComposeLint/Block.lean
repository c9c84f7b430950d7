import ComposeLint.Document

/-!
A block is a header line with the lines below that belong to it. A key owns the deeper lines that
follow and, at its own indent, the items of a list. Blank lines, comments and block scalar text
never end a block, but trailing ones that carry nothing are left out.
-/

namespace ComposeLint

structure Block where
  header : Line
  body : List Line
deriving DecidableEq, Repr

namespace Block

/-- Whether a line may stand inside the block of this header. -/
def continuesFrom (header l : Line) : Bool :=
  !l.isContent || l.inScalar || header.indent < l.indent ||
    (l.indent == header.indent && l.isListItem)

/-- The lines owned by a header, out of those after it. -/
def owned (header : Line) (following : List Line) : List Line :=
  let reach := following.takeWhile (continuesFrom header)
  (reach.reverse.dropWhile (!·.isContent)).reverse

/-- A block for every line that satisfies `opens`, its body taken by `scope` from the lines after
it. -/
def blocksAt (opens : Line → Bool) (scope : Line → List Line → List Line) : List Line → List Block
  | [] => []
  | l :: rest =>
    if opens l then ⟨l, scope l rest⟩ :: blocksAt opens scope rest else blocksAt opens scope rest

/-- The block of the line at an index, among the lines before `stop`. There is none past the end of
the document, nor if the block would have to go on past it. -/
def at? (lines : List Line) (index stop : Nat) : Option Block := do
  let header ← lines[index]?
  let following := (lines.take stop).drop (index + 1)
  if lines.length < stop && following.all (continuesFrom header) then none
  else some ⟨header, owned header following⟩

/-- The header as a name: its text less one final colon. -/
def name (b : Block) : Text :=
  let trimmed := b.header.trimmed
  if trimmed.getLast? == some ':' then trimmed.dropLast else trimmed

def value (b : Block) : Text := b.header.value

/-- Whether the value is a list in brackets on the header line. -/
def isFlowList (b : Block) : Bool := b.value.head? == some '[' && b.value.getLast? == some ']'

def content (b : Block) : List Line := b.body.filter (·.isContent)

/-- The least indent of the lines that show where the children stand: neither scalar text nor lines
with tabs in their margin do. -/
def childIndent? (b : Block) : Option Nat :=
  ((b.content.filter fun l => !l.inScalar && !l.hasTabMargin).map (·.indent)).min?

/-- A key at this indent that is not scalar text. -/
def isKeyAt (indent? : Option Nat) (l : Line) : Bool :=
  l.isMappingKey && some l.indent == indent? && !l.inScalar

/-- A list item at this indent that is not scalar text. -/
def isItemAt (indent? : Option Nat) (l : Line) : Bool :=
  l.isListItem && some l.indent == indent? && !l.inScalar

/-- The keys directly below the header, in source order. -/
def children (b : Block) : List Line := b.content.filter (isKeyAt b.childIndent?)

def childBlocks (b : Block) : List Block := blocksAt (isKeyAt b.childIndent?) owned b.body

/-- The block of the first direct child with this key. -/
def child? (b : Block) (key : Text) : Option Block :=
  b.childBlocks.find? fun child => child.header.key? == some key

def hasChild (b : Block) (key : Text) : Bool := b.children.any fun l => l.key? == some key

/-- The entries of the list that the block holds, each with its line. A list in brackets is cut at
its commas and stands on the header line; its empty places are no entries. -/
def entries (b : Block) : List (Line × Text) :=
  if b.isFlowList then
    let parts := ((b.value.drop 1).dropLast.splitOn ',').map Text.trim
    (parts.filter (!·.isEmpty)).map fun part => (b.header, part)
  else (b.body.filter (isItemAt b.childIndent?)).map fun l => (l, l.item)

end Block

end ComposeLint
