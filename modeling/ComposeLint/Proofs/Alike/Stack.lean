import ComposeLint.Proofs.Alike.Block
import ComposeLint.Proofs.Fields

/-! # Stacks read off lines that read alike

A stack is read off values, items and keys. Numbers enter only as the order of what was found, so
they may change as long as this order stays, as `StrictMono` says. One field looks at whole lines: a
command that is written below its key may have lines of it as its parts. Each field has a child of
its own to be read off, so the lines of different children may change in different ways
(`Service.ofBlock_eq_of_readsAlikeAt`). -/

namespace ComposeLint

variable {place : Int → Int}

/-- Items and what is too far out are no whole lines of a command. -/
theorem Line.Alike.commandPart? {m l : Line} (h : m.Alike place l) (hc : l.isContent = true)
    (hpart : l.isListItem = true ∨ l.indent < 4) (hfree : l.inScalar = false) :
    Block.commandPart? m = Block.commandPart? l := by
  rw [Block.commandPart?, h.inScalar, h.isListItem, h.item,
    h.indent (Line.isBlank_of_isContent hc), hfree, Block.commandPart?, hfree]
  rcases hpart with hitem | hshallow
  · rw [hitem]
    rfl
  · rw [if_neg (Nat.not_le.mpr hshallow), if_neg (Nat.not_le.mpr hshallow)]
    rfl

namespace Block

section
variable {f : Line → Line} (h : ∀ l, (f l).Alike place l)
include h

theorem attachmentOf_alike (b : Block) : attachmentOf (b.withLines f) = attachmentOf b := by
  have hscalar (key : Text) : (b.withLines f).scalar? key = b.scalar? key := by
    simp only [scalar?, child?_alike h, Option.bind_map, Function.comp_def, value_alike h]
  rw [attachmentOf, withLines_header, (h _).key?, hscalar, attachmentOf]

theorem keyed_alike {α : Type} {ofKey : Block → Option α}
    (hkey : ∀ d : Block, ofKey (d.withLines f) = ofKey d) (c : Block) :
    (c.withLines f).keyed ofKey = placed place (c.keyed ofKey) :=
  keyed_withLines (Line.sameShape_of_alike h) (fun l => (h l).number) fun d _ => hkey d

/-- Children that read alike give the same to every field. -/
theorem givesAs_alike {c : Block} (key : Text)
    (hparts : key = "command".toList → c.isReadBelow = true →
      ∀ l ∈ c.content, commandPart? (f l) = commandPart? l) :
    GivesAs place key (c.withLines f) c where
  entries := by
    simp only [bareEntries, entries_alike h, placed, List.map_map, Function.comp_def, (h _).number]
  scalar _ := by rw [value_alike h]
  command hkey := {
    isFlowList := isFlowList_alike h c
    isEmpty := by rw [value_alike h]
    isScalarHeader := by rw [value_alike h]
    unquote := fun _ => by rw [value_alike h]
    parts := fun hbelow => by
      rw [content_withLines (Line.sameShape_of_alike h), List.filterMap_map]
      exact List.filterMap_congr (hparts hkey hbelow) }
  environment _ := keyed_alike h (fun d => by simp [variableOfKey, (h _).key?, (h _).value]) c
  networks _ := keyed_alike h (fun d => by rw [attachmentOf_alike h]) c
  dependsOn _ := keyed_alike h (fun d => by simp [(h _).key?]) c
  sysctls _ := keyed_alike h (fun d => by simp [settingOfKey?, (h _).key?, (h _).value]) c

end

/-! ## Children that read alike -/

/-- The child of `a` with this key, if there is one, is that of `b` with its lines changed; the lines
stay in their order, and parts of a command stay what they are. -/
def ReadsAlikeAt (key : Text) (a b : Block) : Prop :=
  ∃ (place : Int → Int) (f : Line → Line), StrictMono place ∧ (∀ l, (f l).Alike place l) ∧
    a.child? key = (b.child? key).map (withLines f) ∧
    ∀ command, key = "command".toList → b.child? key = some command → command.isReadBelow = true →
      ∀ l ∈ command.content, commandPart? (f l) = commandPart? l

end Block

/-- A service is its name and its children, wherever each of these stands. -/
theorem Service.ofBlock_eq_of_readsAlikeAt {a b : Block} (hname : a.name = b.name)
    (h : ∀ key, Block.ReadsAlikeAt key a b) : Service.ofBlock a = Service.ofBlock b := by
  refine ofBlock_eq_of_givesAt hname fun key => ?_
  obtain ⟨place, f, hp, hf, hchild, hparts⟩ := h key
  cases hb : b.child? key with
  | none => exact .inl ⟨by rw [hchild, hb, Option.map_none], hb⟩
  | some c =>
    exact .inr ⟨place, c.withLines f, c, hp, by rw [hchild, hb, Option.map_some], hb,
      Block.givesAs_alike hf key fun hkey => hparts c hkey hb⟩

variable {f : Line → Line} (h : ∀ l, (f l).Alike place l)
include h

/-- A service is read alike if it has its name and its command has its parts. -/
theorem Service.ofBlock_alike (hp : StrictMono place) {b : Block}
    (hname : (b.withLines f).name = b.name)
    (hparts : ∀ command, b.child? "command".toList = some command → command.isReadBelow = true →
      ∀ l ∈ command.content, Block.commandPart? (f l) = Block.commandPart? l) :
    Service.ofBlock (b.withLines f) = Service.ofBlock b := by
  refine ofBlock_eq_of_readsAlikeAt hname fun key => ⟨place, f, hp, h, Block.child?_alike h b key, ?_⟩
  rintro command rfl
  exact hparts command

theorem Network.ofBlock_alike {b : Block} (hname : (b.withLines f).name = b.name) :
    Network.ofBlock (b.withLines f) = Network.ofBlock b := by
  simp only [Network.ofBlock, hname, Block.scalar?, Block.child?_alike h, Option.any_map,
    Option.bind_map, Function.comp_def, Block.value_alike h]

theorem Counts.ofDocument_alike (doc : Document) : ofDocument (doc.map f) = ofDocument doc := by
  simp only [ofDocument, ofDocument.count, Document.sectionBody_map (Line.sameShape_of_alike h),
    List.countP_map, Function.comp_def, (h _).isHeader]

/-- A stack is read alike if the commands of its services have their parts. -/
theorem Stack.ofDocument_alike (hp : StrictMono place) {doc : Document}
    (hparts : ∀ service ∈ doc.blocks .service, ∀ command,
      service.child? "command".toList = some command → command.isReadBelow = true →
        ∀ l ∈ command.content, Block.commandPart? (f l) = Block.commandPart? l) :
    ofDocument (doc.map f) = ofDocument doc := by
  have hshape := Line.sameShape_of_alike h
  refine (ofDocument_map_eq_iff hshape).mpr ⟨fun b hb => ?_, fun b hb => ?_⟩
  · exact Service.ofBlock_alike h hp (Document.name_of_mem_blocks_map hshape hb) (hparts b hb)
  · exact Network.ofBlock_alike h (Document.name_of_mem_blocks_map hshape hb)

end ComposeLint
