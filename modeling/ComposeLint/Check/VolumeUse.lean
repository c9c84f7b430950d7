import ComposeLint.Diagnostic.Finding
import ComposeLint.Mount
import ComposeLint.Section

/-!
Volumes that are declared are compared with those that services mount.
-/

namespace ComposeLint.Check

/-- A volume name at a line. -/
abbrev VolumeAt := Text × Int

/-- The volume that a line of the volumes section declares: any key at two spaces, with or without
a value, or a bare name there. -/
def declaredVolume? (l : Line) : Option VolumeAt :=
  if l.inScalar || l.hasTabMargin then none
  else
    match l.key? with
    | some key =>
      if l.indent == 2 then some (key.unquote, l.number) else bareName? l
    | none => bareName? l
where
  bareName? (l : Line) : Option VolumeAt :=
    if EntryKind.volume.isHeader l then some (l.trimmed.dropEndWhile (· == ':'), l.number) else none

def declaredVolumes (doc : Document) : List VolumeAt :=
  (doc.sectionBody EntryKind.volume.sectionName).filterMap declaredVolume?

/-- The volume that a line `source: name` of a long mount refers to. -/
def longSource? (l : Line) : Option VolumeAt := do
  let entry ← KeyValue.read? (if l.isListItem then l.item else l.trimmed)
  if entry.key == "source".toList && !entry.value.isEmpty then
    (Mount.namedVolume? entry.value.unquote).map (·, l.number)
  else none

def shortSource? (l : Line) (text : Text) : Option VolumeAt :=
  let mount := text.unquote
  if mount.isMappingEntry then none else (Mount.volumeOf? mount).map (·, l.number)

/-- The volumes that one list of mounts refers to, those of short mounts first. -/
def mountedVolumes (volumes : Block) : List VolumeAt :=
  (volumes.entries.filterMap fun (l, text) => shortSource? l text) ++
    volumes.content.filterMap longSource?

/-- The services that have a list of mounts, each with it. -/
def mountLists (doc : Document) : List (Block × Block) :=
  (doc.blocks .service).filterMap fun service =>
    (service.child? "volumes".toList).map (service, ·)

def volumeIssuesOf (names : List VolumeAt) (others : List VolumeAt) (finding : Text → Finding) :
    List Issue :=
  (names.filter fun (name, _) => !(others.map (·.1)).contains name).map fun (name, line) =>
    (finding name).onLine line

def volumeUseIssues (doc : Document) : List Issue :=
  let lists := mountLists doc
  let declared := declaredVolumes doc
  let mounted := lists.flatMap fun (_, volumes) => mountedVolumes volumes
  let emptyLists := (lists.filter fun (_, volumes) => volumes.entries.isEmpty).map
    fun (service, volumes) => (Finding.emptyVolumeList service.name).onLine volumes.header.number
  emptyLists ++ volumeIssuesOf declared mounted .unusedVolume ++
    volumeIssuesOf mounted declared .undefinedVolume

end ComposeLint.Check
