import ComposeLint.Check.Structure
import ComposeLint.Check.VolumeUse
import ComposeLint.Proofs.Document.Blocks
import ComposeLint.Proofs.Reworded.Document

/-! # Blocks in other words

Entries and children are unmarked lines, so a block over reworded lines has those that it had. What
tells scalar text apart all the same is gathered in `Line.ReadsLike`: whether it is a comment, which
may cut the end off a block, whether it stands where entries do, and which keys it holds for the two
scans that take every line of a block. Where all of that stays, the blocks of the document are those
that it had, over reworded lines (`Document.blocks_reworded`). -/

namespace ComposeLint

/-- Two lines are the same to all who look at a line in spite of its mark. -/
@[mk_iff]
structure Line.ReadsLike (m l : Line) : Prop where
  isComment : m.isComment = l.isComment
  startsEntry : m.startsEntry = l.startsEntry
  service : EntryKind.service.isHeader m = true ∨ EntryKind.service.isHeader l = true → m = l
  definesNetwork : Check.definesOneOf Check.networkDefinitionKeys m =
    Check.definesOneOf Check.networkDefinitionKeys l
  definesVolume : Check.definesOneOf Check.volumeDefinitionKeys m =
    Check.definesOneOf Check.volumeDefinitionKeys l
  longSource? : Check.longSource? m = Check.longSource? l

namespace Line.ReadsLike

instance (m l : Line) : Decidable (m.ReadsLike l) := decidable_of_iff' _ (Line.readsLike_iff m l)

theorem refl (l : Line) : l.ReadsLike l := ⟨rfl, rfl, fun _ => rfl, rfl, rfl, rfl⟩

theorem isHeader {m l : Line} (h : m.ReadsLike l) :
    EntryKind.service.isHeader m = EntryKind.service.isHeader l := by
  cases hm : EntryKind.service.isHeader m with
  | true => rw [← h.service (.inl hm), hm]
  | false =>
    cases hl : EntryKind.service.isHeader l with
    | false => rfl
    | true => rw [h.service (.inr hl), hl] at hm; cases hm

end Line.ReadsLike

/-- A rewording that nobody notices who looks at a line in spite of its mark. -/
def Rewording.Unnoticed (r : Rewording) : Prop := ∀ l : Line, (l.reworded r).ReadsLike l

variable {r : Rewording}

theorem Rewording.Unnoticed.isContent (h : r.Unnoticed) (l : Line) :
    (l.reworded r).isContent = l.isContent := by
  rw [Line.isContent, Line.reworded_isBlank, (h l).isComment, Line.isContent]

namespace Block

/-- The block over the reworded lines, below the same header. -/
def reworded (r : Rewording) (b : Block) : Block := ⟨b.header, b.body.map (Line.reworded r)⟩

/-! ## Cutting blocks -/

/-- Blocks below headers that no rewording reaches. -/
theorem blocksAt_reworded {opens : Line → Bool} {scope : Line → List Line → List Line}
    (hopens : ∀ l, opens (l.reworded r) = opens l)
    (hfixed : ∀ l, opens l = true → l.reworded r = l)
    (hscope : ∀ l rest, scope l (rest.map (Line.reworded r)) =
      (scope l rest).map (Line.reworded r)) (lines : List Line) :
    blocksAt opens scope (lines.map (Line.reworded r)) =
      (blocksAt opens scope lines).map (reworded r) := by
  rw [blocksAt_map hopens fun l rest hl => by rw [hfixed l hl, hscope]]
  refine List.map_congr_left fun b hb => ?_
  obtain ⟨-, -, -, hheader, -⟩ := exists_of_mem_blocksAt hb
  rw [hfixed _ hheader, reworded]

theorem continuesFrom_reworded (header l : Line) :
    continuesFrom header (l.reworded r) = continuesFrom header l := by
  cases hs : l.inScalar with
  | true => simp [continuesFrom, hs]
  | false => rw [Line.reworded_of_free hs]

theorem owned_reworded (h : r.Unnoticed) (header : Line) (following : List Line) :
    owned header (following.map (Line.reworded r)) =
      (owned header following).map (Line.reworded r) := by
  unfold owned
  rw [List.takeWhile_map]
  simp only [Function.comp_def, continuesFrom_reworded, ← List.map_reverse, List.dropWhile_map,
    h.isContent]

/-! ## One block -/

section
variable (b : Block)

@[simp]
theorem header_reworded : (b.reworded r).header = b.header := rfl

@[simp]
theorem body_reworded : (b.reworded r).body = b.body.map (Line.reworded r) := rfl

@[simp]
theorem name_reworded : (b.reworded r).name = b.name := rfl

@[simp]
theorem isFlowList_reworded : (b.reworded r).isFlowList = b.isFlowList := rfl

theorem isKeyAt_reworded (indent? : Option Nat) (l : Line) :
    isKeyAt indent? (l.reworded r) = isKeyAt indent? l := by
  cases hs : l.inScalar with
  | true => simp [isKeyAt, hs]
  | false => rw [Line.reworded_of_free hs]

theorem isItemAt_reworded (indent? : Option Nat) (l : Line) :
    isItemAt indent? (l.reworded r) = isItemAt indent? l := by
  cases hs : l.inScalar with
  | true => simp [isItemAt, hs]
  | false => rw [Line.reworded_of_free hs]

theorem reworded_of_isKeyAt {indent? : Option Nat} {l : Line} (h : isKeyAt indent? l = true) :
    l.reworded r = l := by
  simp only [isKeyAt, Bool.and_eq_true, Bool.not_eq_true'] at h
  exact Line.reworded_of_free h.2

theorem reworded_of_isItemAt {indent? : Option Nat} {l : Line} (h : isItemAt indent? l = true) :
    l.reworded r = l := by
  simp only [isItemAt, Bool.and_eq_true, Bool.not_eq_true'] at h
  exact Line.reworded_of_free h.2

end

variable (h : r.Unnoticed) (b : Block)
include h

theorem content_reworded : (b.reworded r).content = b.content.map (Line.reworded r) := by
  simp [content, List.filter_map, Function.comp_def, h.isContent]

theorem childIndent?_reworded : (b.reworded r).childIndent? = b.childIndent? := by
  rw [childIndent?, content_reworded h, Line.filter_reworded, childIndent?]
  · simp
  · intro l hl
    simp only [Bool.and_eq_true, Bool.not_eq_true'] at hl
    exact Line.reworded_of_free hl.1

theorem children_reworded : (b.reworded r).children = b.children := by
  rw [children, content_reworded h, childIndent?_reworded h,
    Line.filter_reworded (isKeyAt_reworded _) fun _ => reworded_of_isKeyAt, children]

theorem entries_reworded : (b.reworded r).entries = b.entries := by
  rw [entries, isFlowList_reworded, childIndent?_reworded h, body_reworded,
    Line.filter_reworded (isItemAt_reworded _) fun _ => reworded_of_isItemAt, entries]
  rfl

theorem childBlocks_reworded : (b.reworded r).childBlocks = b.childBlocks.map (reworded r) := by
  rw [childBlocks, childIndent?_reworded h, body_reworded]
  exact blocksAt_reworded (isKeyAt_reworded _) (fun _ => reworded_of_isKeyAt) (owned_reworded h) _

theorem child?_reworded (key : Text) :
    (b.reworded r).child? key = (b.child? key).map (reworded r) := by
  rw [child?, childBlocks_reworded h, List.find?_map]
  rfl

theorem hasChild_reworded (key : Text) : (b.reworded r).hasChild key = b.hasChild key := by
  rw [hasChild, children_reworded h, hasChild]

end Block

namespace Document

/-- The services of the document, over reworded lines. -/
theorem blocks_reworded (h : r.Unnoticed) (hkeeps : r.KeepsSections) (doc : Document) :
    blocks (doc.map (Line.reworded r)) .service = (blocks doc .service).map (Block.reworded r) := by
  rw [blocks, sectionBody_reworded hkeeps]
  refine Block.blocksAt_reworded (fun l => (h l).isHeader) (fun l hl => (h l).service (.inr hl))
    (fun _ rest => ?_) _
  rw [entryScope, List.takeWhile_map]
  simp only [Function.comp_def, (h _).startsEntry, entryScope]

end Document

end ComposeLint
