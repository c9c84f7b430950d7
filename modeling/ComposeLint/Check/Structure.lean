import ComposeLint.Check.Service
import ComposeLint.Section

/-!
The check of a document's structure: its sections and services, and sections that ended up below
another key. Services belong to the top level only. Networks and volumes may stand below a service,
as a list of what it uses, so they are reported only when they hold the keys of a definition.
-/

namespace ComposeLint.Check

def networkDefinitionKeys : List Text :=
  ["driver", "driver_opts", "external", "ipam", "attachable"].map String.toList

def volumeDefinitionKeys : List Text :=
  ["driver", "driver_opts", "external", "labels"].map String.toList

/-- Whether a line is one of these keys, or a list item that is. -/
def definesOneOf (keys : List Text) (l : Line) : Bool :=
  match l.role with
  | .mappingKey key _ => keys.contains key
  | .listItem => l.item.isMappingEntry && keys.contains (l.item.takeWhile (· != ':'))
  | _ => false

/-- An indented key without a value. -/
def isIndentedKey (l : Line) : Bool :=
  l.value? == some [] && !l.inScalar && l.raw.head?.any Text.isSpaceOrTab

/-- What a misplaced section is, and the keys that show it to be misplaced, if any are needed. -/
def misplacement? (key : Text) : Option (Finding × Option (List Text)) :=
  if key == "services".toList then some (.misplacedServices, none)
  else if key == "networks".toList then some (.misplacedNetworks, some networkDefinitionKeys)
  else if key == "volumes".toList then some (.misplacedVolumes, some volumeDefinitionKeys)
  else none

/-- The issue of an indented key, if its name is that of a section. One that needs definition keys
is reported with all of its lines. -/
def placementIssue? (b : Block) : Option Issue := do
  let key ← b.header.key?
  let (finding, keys?) ← misplacement? key
  let start := b.header.number
  match keys? with
  | none => some (finding.onLine start)
  | some keys =>
    if b.content.any (definesOneOf keys) then
      let stop := (b.body.getLast?.map Line.number).getD start
      some (finding.issue { line? := some start, endLine? := some stop })
    else none

def placementIssues (doc : Document) : List Issue :=
  (Block.blocksAt isIndentedKey Block.owned doc).filterMap placementIssue?

/-- Without a services section nothing but placement is checked. -/
def structureIssues (doc : Document) : Except Integer.Fault (List Issue) :=
  match doc.section? EntryKind.service.sectionName with
  | none => return placementIssues doc ++ [Finding.missingServices.onLine 1]
  | some s => do
    let services := doc.blocks .service
    let empty := if services.isEmpty then [Finding.emptyServices.onLine s.lineNumber] else []
    let each ← services.mapM serviceIssues
    return placementIssues doc ++ empty ++ each.flatten

end ComposeLint.Check
