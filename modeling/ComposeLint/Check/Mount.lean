import ComposeLint.Block
import ComposeLint.Diagnostic.Finding
import ComposeLint.Mount

/-!
The check of short mounts. At most one fault of a mount is reported, the first in a fixed order.
-/

namespace ComposeLint.Check

/-- Where a path inside a container may start: at the root or with a variable. -/
def isRooted (path : Text) : Bool := path.head? == some '/' || path.head? == some '$'

/-- What is wrong with a mount that has a container part. -/
def mountPartsFault? (mount source container : Text) (mode : List Text) : Option Finding :=
  if source.contains ',' || container.contains ',' then some (.mountComma mount)
  else if mount.getLast? == some ':' then some (.mountTrailingColon mount)
  else if mount.head? == some ':' then some (.mountLeadingColon mount)
  else if 1 < mode.length then some (.mountTooManyParts mount)
  else if (source :: container :: mode).any Text.isVacant then some (.mountEmptySegment mount)
  else
    let path := container.trim
    if isRooted path || Mount.startsWithDrive path then none
    else some (.relativeContainerPath mount path)

/-- A single part is an anonymous volume if it is rooted. -/
def mountFault? (mount : Text) : Option Finding :=
  match Mount.split mount with
  | source :: container :: mode => mountPartsFault? mount source container mode
  | _ => if isRooted mount then none else some (.missingContainerPath mount)

def mountIssues (mount : Text) (line : Int) : List Issue :=
  (mountFault? mount).toList.map (·.onLine line)

/-- The issues of all short mounts of a list; entries that hold a mapping are not short. -/
def mountListIssues (volumes : Block) : List Issue :=
  volumes.entries.flatMap fun (l, text) =>
    let mount := text.unquote
    if mount.isEmpty || mount.isMappingEntry then [] else mountIssues mount l.number

end ComposeLint.Check
