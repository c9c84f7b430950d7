import ComposeLint.Proofs.Alike.Line
import ComposeLint.Proofs.Document.Blocks

/-! # Lines of one shape

Where blocks start and how far they go hangs on the shape of lines: on content, indents, and which
lines are items, keys and headers. So a change of lines that keeps their shape cuts the document into
the blocks that it had, over the changed lines (`Document.blocks_map`), whatever becomes of keys,
values and items. -/

namespace ComposeLint

/-- The line `m` is cut like `l`. Where an entry starts, its name is read off the text. -/
structure Line.SameShape (m l : Line) : Prop where
  inScalar : m.inScalar = l.inScalar
  isContent : m.isContent = l.isContent
  isListItem : m.isListItem = l.isListItem
  isMappingKey : m.isMappingKey = l.isMappingKey
  margin : l.isContent = true → m.margin = l.margin
  startsTopLevel : m.startsTopLevel = l.startsTopLevel
  startsEntry : m.startsEntry = l.startsEntry
  isSectionHeader (kind : EntryKind) :
    m.isSectionHeader kind.sectionName = l.isSectionHeader kind.sectionName
  isHeader (kind : EntryKind) : kind.isHeader m = kind.isHeader l
  trimmed : l.startsEntry = true → m.trimmed = l.trimmed

namespace Line.SameShape

theorem refl (l : Line) : l.SameShape l where
  inScalar := rfl
  isContent := rfl
  isListItem := rfl
  isMappingKey := rfl
  margin _ := rfl
  startsTopLevel := rfl
  startsEntry := rfl
  isSectionHeader _ := rfl
  isHeader _ := rfl
  trimmed _ := rfl

variable {m l : Line} (h : m.SameShape l)
include h

theorem indent (hc : l.isContent = true) : m.indent = l.indent := by
  rw [indent_eq_margin, h.margin hc, ← indent_eq_margin]

theorem hasTabMargin (hc : l.isContent = true) : m.hasTabMargin = l.hasTabMargin := by
  rw [Line.hasTabMargin, h.margin hc, Line.hasTabMargin]

end Line.SameShape

/-- Lines that read alike have one shape. -/
theorem Line.Alike.sameShape {place : Int → Int} {m l : Line} (h : m.Alike place l) :
    m.SameShape l where
  inScalar := h.inScalar
  isContent := h.isContent
  isListItem := h.isListItem
  isMappingKey := h.isMappingKey
  margin hc := h.margin (isBlank_of_isContent hc)
  startsTopLevel := h.startsTopLevel
  startsEntry := h.startsEntry
  isSectionHeader := h.isSectionHeader
  isHeader := h.isHeader
  trimmed := h.trimmed

/-- Cutting commutes with a change of lines that the two tests cannot see. -/
theorem Block.blocksAt_map {f : Line → Line} {opens opens' : Line → Bool}
    {scope scope' : Line → List Line → List Line} (ho : ∀ l, opens' (f l) = opens l)
    (hs : ∀ l rest, opens l = true → scope' (f l) (rest.map f) = (scope l rest).map f) :
    ∀ lines, blocksAt opens' scope' (lines.map f) =
      (blocksAt opens scope lines).map fun b => ⟨f b.header, b.body.map f⟩
  | [] => rfl
  | l :: rest => by
    simp only [List.map_cons, blocksAt, ho]
    by_cases h : opens l = true
    · rw [if_pos h, if_pos h, hs l rest h, blocksAt_map ho hs rest, List.map_cons]
    · rw [if_neg h, if_neg h, blocksAt_map ho hs rest]

namespace Block

theorem isContent_of_isKeyAt {indent? : Option Nat} {l : Line} (h : isKeyAt indent? l = true) :
    l.isContent = true := by
  simp only [isKeyAt, Bool.and_eq_true] at h
  exact Line.isContent_of_isMappingKey h.1.1

theorem isListItem_of_isKeyAt {indent? : Option Nat} {l : Line} (h : isKeyAt indent? l = true) :
    l.isListItem = false := by
  simp only [isKeyAt, Bool.and_eq_true] at h
  have hkey := h.1.1
  cases hrole : l.role <;> simp_all [Line.isMappingKey, Line.key?, Line.isListItem]

theorem isItemAt_of_isKeyAt {indent? : Option Nat} {l : Line} (h : isKeyAt indent? l = true) :
    isItemAt indent? l = false := by
  rw [isItemAt, isListItem_of_isKeyAt h, Bool.false_and, Bool.false_and]

/-- The block with all of its lines changed. -/
def withLines (f : Line → Line) (b : Block) : Block := ⟨f b.header, b.body.map f⟩

variable {f : Line → Line}

@[simp]
theorem withLines_header (b : Block) : (b.withLines f).header = f b.header := rfl

@[simp]
theorem withLines_body (b : Block) : (b.withLines f).body = b.body.map f := rfl

variable (h : ∀ l, (f l).SameShape l)
include h

/-! ## Cutting blocks -/

theorem continuesFrom_map {header : Line} (hc : header.isContent = true) (l : Line) :
    continuesFrom (f header) (f l) = continuesFrom header l := by
  unfold continuesFrom
  rw [(h l).isContent]
  cases hl : l.isContent with
  | false => rfl
  | true => rw [(h l).inScalar, (h l).isListItem, (h l).indent hl, (h header).indent hc]

theorem owned_map {header : Line} (hc : header.isContent = true) (following : List Line) :
    owned (f header) (following.map f) = (owned header following).map f := by
  unfold owned
  rw [List.takeWhile_map]
  simp only [Function.comp_def, continuesFrom_map h hc, ← List.map_reverse, List.dropWhile_map,
    (h _).isContent]

theorem isKeyAt_map (indent? : Option Nat) (l : Line) : isKeyAt indent? (f l) = isKeyAt indent? l := by
  unfold isKeyAt
  rw [(h l).isMappingKey, (h l).inScalar]
  cases hl : l.isMappingKey with
  | false => rfl
  | true => rw [(h l).indent (Line.isContent_of_isMappingKey hl)]

theorem isItemAt_map (indent? : Option Nat) (l : Line) :
    isItemAt indent? (f l) = isItemAt indent? l := by
  unfold isItemAt
  rw [(h l).isListItem, (h l).inScalar]
  cases hl : l.isListItem with
  | false => rfl
  | true => rw [(h l).indent (Line.isContent_of_isListItem hl)]

/-! ## One block -/

variable (b : Block)

/-- The name of an entry is read off its header. -/
theorem name_withLines {b : Block} (hb : b.header.startsEntry = true) :
    (b.withLines f).name = b.name := by
  rw [name, withLines_header, (h b.header).trimmed hb, name]

theorem content_withLines : (b.withLines f).content = b.content.map f := by
  simp [content, List.filter_map, Function.comp_def, (h _).isContent]

theorem childIndent?_withLines : (b.withLines f).childIndent? = b.childIndent? := by
  have hcontent : ∀ l ∈ b.content, l.isContent = true := fun l hl => (List.mem_filter.mp hl).2
  unfold childIndent?
  rw [content_withLines h, List.filter_map, List.map_map]
  congr 1
  rw [List.filter_congr (q := fun l => !l.inScalar && !l.hasTabMargin) fun l hl => by
    simp [(h l).inScalar, (h l).hasTabMargin (hcontent l hl)]]
  exact List.map_congr_left fun l hl => (h l).indent (hcontent l (List.mem_filter.mp hl).1)

theorem children_withLines : (b.withLines f).children = b.children.map f := by
  simp only [children, content_withLines h, childIndent?_withLines h, List.filter_map,
    Function.comp_def, isKeyAt_map h]

theorem childBlocks_withLines : (b.withLines f).childBlocks = b.childBlocks.map (withLines f) := by
  rw [childBlocks, childIndent?_withLines h]
  exact blocksAt_map (isKeyAt_map h _) (fun l rest hl => owned_map h (isContent_of_isKeyAt hl) rest)
    b.body

/-- A child is found as before if its key and those of the other children are kept. -/
theorem child?_withLines (hkeys : ∀ l ∈ b.children, (f l).key? = l.key?) (key : Text) :
    (b.withLines f).child? key = (b.child? key).map (withLines f) := by
  rw [child?, childBlocks_withLines h, List.find?_map, child?, ← List.head?_filter,
    ← List.head?_filter]
  refine congrArg (Option.map _ ∘ List.head?) (List.filter_congr fun c hc => ?_)
  rw [Function.comp_apply, withLines_header, hkeys _ (b.children_eq ▸ List.mem_map_of_mem hc)]

theorem itemsBelow_withLines :
    (b.withLines f).body.filter (isItemAt (b.withLines f).childIndent?) =
      (b.body.filter (isItemAt b.childIndent?)).map f := by
  simp only [childIndent?_withLines h, withLines_body, List.filter_map, Function.comp_def,
    isItemAt_map h]

end Block

namespace Document

variable {f : Line → Line} (h : ∀ l, (f l).SameShape l) (doc : Document) (kind : EntryKind)
include h

/-! ## Sections and entries -/

theorem findSection?_map :
    findSection? (doc.map f) kind.sectionName = findSection? doc kind.sectionName := by
  simp [findSection?, List.findIdx?_map, Function.comp_def, (h _).isSectionHeader]

theorem section?_map :
    Document.section? (doc.map f) kind.sectionName = Document.section? doc kind.sectionName := by
  have hend : sectionEnd (doc.map f) = sectionEnd doc := by
    funext start
    simp [sectionEnd, ← List.map_drop, List.findIdx_map, Function.comp_def, (h _).startsTopLevel]
  rw [Document.section?, findSection?_map h, hend, Document.section?]

theorem sectionBody_map :
    sectionBody (doc.map f) kind.sectionName = (sectionBody doc kind.sectionName).map f := by
  unfold sectionBody
  rw [section?_map h]
  cases Document.section? doc kind.sectionName with
  | none => rfl
  | some s => simp [List.map_take, List.map_drop]

theorem entryBlocks_map (lines : List Line) :
    Block.blocksAt kind.isHeader entryScope (lines.map f) =
      (Block.blocksAt kind.isHeader entryScope lines).map (Block.withLines f) := by
  refine Block.blocksAt_map (fun l => (h l).isHeader kind) (fun l rest _ => ?_) lines
  simp [entryScope, List.takeWhile_map, Function.comp_def, (h _).startsEntry]

theorem blocks_map : blocks (doc.map f) kind = (blocks doc kind).map (Block.withLines f) := by
  rw [blocks, sectionBody_map h, entryBlocks_map h, blocks]

variable {doc kind} in
theorem name_of_mem_blocks_map {b : Block} (hb : b ∈ doc.blocks kind) :
    (b.withLines f).name = b.name := by
  obtain ⟨-, -, -, hheader, -⟩ := Block.exists_of_mem_blocksAt hb
  exact Block.name_withLines h (EntryKind.startsEntry_of_isHeader hheader)

end Document

end ComposeLint
