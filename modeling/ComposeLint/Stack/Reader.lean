import ComposeLint.Line.Quote
import ComposeLint.Section
import ComposeLint.Stack.Basic

/-!
Reading a stack off the blocks of a document. What makes no sense is left out; the checks say why.
A field that may be a list or a mapping gives the union of both, in the order of the source.
-/

namespace ComposeLint

/-- The first two segments between colons, if neither is vacant. -/
def Mapping.read? (t : Text) : Option Mapping :=
  match t.splitOn ':' with
  | host :: container :: _ =>
    let host := Text.trim host
    let container := Text.trim container
    if host.isEmpty || container.isEmpty then none else some ⟨host, container⟩
  | _ => none

namespace Text

/-- The trimmed text without any quote in it. -/
def withoutQuotes (t : Text) : Text := Text.trim (t.filter (!isQuote ·))

/-- The text before the first equals sign and, if there is one, the text after it. -/
def splitAssignment (t : Text) : Text × Option Text :=
  match t.cutAt? '=' with
  | some (key, value) => (key, some value)
  | none => (t, none)

end Text

/-- Found values in the order of their lines; those of one line stay as they were found. -/
def inLineOrder {α : Type} (found : List (Int × α)) : List α :=
  (found.mergeSort fun a b => a.1 ≤ b.1).map (·.2)

namespace Block

def scalar? (b : Block) (key : Text) : Option Text :=
  (b.child? key).bind fun child => child.value.unquote.nonempty?

def entriesOf (b : Block) (key : Text) : List (Line × Text) :=
  match b.child? key with
  | some child => child.entries
  | none => []

/-- Pairs in short form; entries that hold a mapping are not short forms. -/
def mappingsOf (b : Block) (key : Text) : List Mapping :=
  ((b.entriesOf key).map (·.2.withoutQuotes)).filterMap fun text =>
    if text.isMappingEntry then none else Mapping.read? text

/-- The part of a command that one line of its block gives. -/
def commandPart? (l : Line) : Option Text :=
  if l.inScalar then some l.trimmed
  else if l.isListItem then l.item.nonempty?.map Text.unquote
  else if 4 ≤ l.indent then some l.trimmed
  else none

/-- A list in brackets, a value on the header line, or else the lines below it. -/
def command? (b : Block) : Option Command := do
  let child ← b.child? "command".toList
  if child.isFlowList then some (.parts (child.entries.map (·.2.unquote)))
  else if !child.value.isEmpty && !Line.isScalarHeader child.value then
    some (.line child.value.unquote)
  else
    let parts := child.content.filterMap commandPart?
    if parts.isEmpty then none else some (.parts parts)

/-- A variable written `KEY=value` or `KEY`. -/
def variableOfItem? (text : Text) : Option Variable :=
  let (key, value?) := text.unquote.splitAssignment
  if key.isVacant then none else some ⟨key.trim, value?⟩

def variableOfKey (l : Line) : Variable :=
  ⟨(l.key?.getD []).unquote, l.value.unquote.nonempty?⟩

def environment (b : Block) : List Variable :=
  match b.child? "environment".toList with
  | none => []
  | some child =>
    inLineOrder <|
      (child.entries.filterMap fun (l, text) => (variableOfItem? text).map (l.number, ·)) ++
        child.children.map fun l => (l.number, variableOfKey l)

def attachmentOf (b : Block) : Attachment :=
  ⟨b.header.key?.getD [], b.scalar? "ipv4_address".toList⟩

def attachments (b : Block) : List Attachment :=
  match b.child? "networks".toList with
  | none => []
  | some child =>
    inLineOrder <|
      ((child.entries.filter (!·.2.isEmpty)).map fun (l, text) =>
        (l.number, (⟨text.unquote, none⟩ : Attachment))) ++
        child.childBlocks.map fun network => (network.header.number, attachmentOf network)

/-- In the order of their lines and, on one line, of their names. -/
def dependencies (b : Block) : List Text :=
  match b.child? "depends_on".toList with
  | none => []
  | some child =>
    let found :=
      ((child.entries.filter (!·.2.isEmpty)).map fun (l, text) => (l.number, text.unquote)) ++
        child.children.map fun l => (l.number, l.key?.getD [])
    (found.mergeSort fun a b => a.1 < b.1 || (a.1 == b.1 && a.2.atMost b.2)).map (·.2)

/-- A setting written `key=value`; both sides are required. -/
def settingOfItem? (text : Text) : Option Setting :=
  match text.unquote.splitAssignment with
  | (key, some value) =>
    if key.isVacant || value.isVacant then none else some ⟨key.trim, value.trim⟩
  | (_, none) => none

def settingOfKey? (l : Line) : Option Setting :=
  l.value.unquote.nonempty?.map fun value => ⟨l.key?.getD [], value⟩

def sysctls (b : Block) : List Setting :=
  match b.child? "sysctls".toList with
  | none => []
  | some child =>
    inLineOrder <|
      (child.entries.filterMap fun (l, text) => (settingOfItem? text).map (l.number, ·)) ++
        child.children.filterMap fun l => (settingOfKey? l).map (l.number, ·)

end Block

def Service.ofBlock (b : Block) : Service where
  name := b.name
  image? := b.scalar? "image".toList
  command? := b.command?
  restart? := b.scalar? "restart".toList
  ports := b.mappingsOf "ports".toList
  environment := b.environment
  volumes := b.mappingsOf "volumes".toList
  networks := b.attachments
  dependsOn := b.dependencies
  sysctls := b.sysctls
  capabilities :=
    ((b.entriesOf "cap_add".toList).filter (!·.2.isEmpty)).map (·.2.unquote)

/-- A network is external only by the plain word; quotes around it make it another value. -/
def Network.ofBlock (b : Block) : Network where
  name := b.name
  isExternal := (b.child? "external".toList).any fun child => child.value.toLower == "true".toList
  driver? := b.scalar? "driver".toList

namespace Stack

def ofDocument (doc : Document) : Stack where
  services := (doc.blocks .service).map Service.ofBlock
  networks := (doc.blocks .network).map Network.ofBlock
  volumes := (doc.blocks .volume).map Block.name

def read (text : Text) : Stack := ofDocument (Document.ofText text)

end Stack

namespace Counts

/-- Counts header lines and builds no entries. -/
def ofDocument (doc : Document) : Counts where
  services := count .service
  networks := count .network
  volumes := count .volume
where
  count (kind : EntryKind) : Nat := (doc.sectionBody kind.sectionName).countP kind.isHeader

def read (text : Text) : Counts := ofDocument (Document.ofText text)

end Counts

end ComposeLint
