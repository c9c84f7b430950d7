import ComposeLint.Proofs.Alike.Check
import ComposeLint.Proofs.Alike.Stack

/-! # Documents at another place

Moved lines read like those that they were, so a block cut from moved lines is the moved block, and
names stay with it. A change of numbers that keeps their order leaves every service and network as
it is. The checks of one service name no line in a message, so moving its lines moves the issues
and changes nothing else about them. -/

namespace ComposeLint

theorem Line.alike_moved (place : Int → Int) (l : Line) : (l.moved place).Alike place l where
  number := rfl
  inScalar := rfl
  role := l.moved_role place
  item := l.moved_item place
  margin := moved_margin place
  startsTopLevel := l.moved_startsTopLevel place
  startsEntry := l.moved_startsEntry place
  isSectionHeader kind := l.moved_isSectionHeader place kind.sectionName
  isHeader := l.moved_isHeader place
  trimmed _ := l.moved_trimmed place

namespace Block

/-- The block with all of its lines moved. -/
def moved (place : Int → Int) (b : Block) : Block :=
  ⟨b.header.moved place, b.body.map (Line.moved place)⟩

variable (place : Int → Int) (b : Block)

theorem moved_moved (place' : Int → Int) :
    (b.moved place).moved place' = b.moved fun n => place' (place n) := by
  simp only [moved, List.map_map, Function.comp_def, Line.moved_moved]

theorem name_moved : (b.moved place).name = b.name := by
  rw [name, moved, Line.moved_trimmed, name]

end Block

namespace Document

variable (place : Int → Int) (doc : Document)

theorem entryBlocks_moved (kind : EntryKind) (lines : List Line) :
    Block.blocksAt kind.isHeader entryScope (lines.map (Line.moved place)) =
      (Block.blocksAt kind.isHeader entryScope lines).map (Block.moved place) :=
  entryBlocks_map (Line.sameShape_of_alike (Line.alike_moved place)) kind lines

theorem markScalars_moved (holder : Option Nat) (lines : List Line) :
    markScalars holder (lines.map (Line.moved place)) =
      (markScalars holder lines).map (Line.moved place) :=
  markScalars_alike (Line.alike_moved place) (fun _ => rfl) holder lines

end Document

/-! ## Stacks -/

section

variable {place : Int → Int}

theorem Block.commandPart?_moved {l : Line} (h : l.isContent = true) :
    commandPart? (l.moved place) = commandPart? l := by
  simp [commandPart?, (Line.alike_moved place l).indent (Line.isBlank_of_isContent h)]

/-- A service is the same wherever its block stands. -/
theorem Service.ofBlock_moved (hp : StrictMono place) (b : Block) :
    Service.ofBlock (b.moved place) = Service.ofBlock b :=
  ofBlock_alike (Line.alike_moved place) hp (b.name_moved place) fun _ _ _ _ hl =>
    Block.commandPart?_moved (List.mem_filter.mp hl).2

theorem Network.ofBlock_moved (b : Block) :
    Network.ofBlock (b.moved place) = Network.ofBlock b :=
  ofBlock_alike (Line.alike_moved place) (b.name_moved place)

theorem Stack.ofDocument_moved (hp : StrictMono place) (doc : Document) :
    Stack.ofDocument (doc.map (Line.moved place)) = Stack.ofDocument doc :=
  ofDocument_alike (Line.alike_moved place) hp fun _ _ _ _ _ _ hl =>
    Block.commandPart?_moved (List.mem_filter.mp hl).2

theorem Counts.ofDocument_moved (doc : Document) :
    Counts.ofDocument (doc.map (Line.moved place)) = Counts.ofDocument doc :=
  ofDocument_alike (Line.alike_moved place) doc

end

/-! ## Findings -/

/-- The issues of a service move with its block, and the check fails at both places alike. -/
theorem Check.serviceIssues_moved (place : Int → Int) (service : Block) :
    serviceIssues (service.moved place) =
      (serviceIssues service).map (List.map (Issue.moved place)) :=
  serviceIssues_alike (Line.alike_moved place) (service.name_moved place)

end ComposeLint
