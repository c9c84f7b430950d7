import ComposeLint.Proofs.Alike.Block
import ComposeLint.Proofs.Check.Lookups
import ComposeLint.Proofs.OwnedLines

/-! # Blocks inside of blocks

Every block that a reader of a document comes to is a run of its lines (`Document.Reaches.isInfix`):
it was cut from the document itself or from the body of a block that was reached before. So its
lines have ascending numbers and none is there twice, and a search for the header of a child finds
the place of the child, at any depth. Children of one block stand at one indent, so each of them ends
the block of the one before it. -/

namespace ComposeLint

/-- The blocks that a reader of a document may come to. Any line may be taken for a header, there
and in the body of any block; sections have entries, and every block has children. -/
inductive Document.Reaches (doc : Document) : Block → Prop
  | cut {index stop : Nat} {b : Block} (h : Block.at? doc index stop = some b) : doc.Reaches b
  | entry {kind : EntryKind} {b : Block} (h : b ∈ doc.blocks kind) : doc.Reaches b
  | cutIn {b c : Block} {index stop : Nat} (hb : doc.Reaches b)
      (h : Block.at? b.body index stop = some c) : doc.Reaches c
  | child {b c : Block} {key : Text} (hb : doc.Reaches b) (h : b.child? key = some c) :
      doc.Reaches c
  | childBlock {b c : Block} (hb : doc.Reaches b) (h : c ∈ b.childBlocks) : doc.Reaches c

namespace Block

/-! ## Blocks as runs of lines -/

theorem owned_prefix_following (header : Line) (following : List Line) :
    owned header following <+: following :=
  (List.rdropWhile_prefix _ _).trans (List.takeWhile_prefix _)

theorem isInfix_of_at? {lines : List Line} {index stop : Nat} {b : Block}
    (h : at? lines index stop = some b) : (b.header :: b.body) <:+: lines := by
  unfold at? at h
  cases hheader : lines[index]? with
  | none => simp [hheader] at h
  | some header =>
    obtain ⟨hlt, rfl⟩ := List.getElem?_eq_some_iff.mp hheader
    simp only [hheader, Option.bind_eq_bind, Option.bind_some] at h
    split at h
    · cases h
    · obtain rfl := Option.some.inj h
      have hbody : owned lines[index] ((lines.take stop).drop (index + 1)) <+:
          lines.drop (index + 1) := by
        rw [List.drop_take]
        exact (owned_prefix_following _ _).trans (List.take_prefix _ _)
      have hrun : lines[index] :: owned lines[index] ((lines.take stop).drop (index + 1)) <+:
          lines.drop index := by
        rw [List.drop_eq_getElem_cons hlt]
        exact (List.prefix_cons_inj _).mpr hbody
      exact hrun.isInfix.trans (List.drop_suffix _ _).isInfix

theorem isInfix_of_mem_blocksAt {opens : Line → Bool} {scope : Line → List Line → List Line}
    (hscope : ∀ header following, scope header following <+: following) {lines : List Line}
    {b : Block} (hb : b ∈ blocksAt opens scope lines) : (b.header :: b.body) <:+: lines := by
  obtain ⟨before, following, rfl, -, hbody⟩ := exists_of_mem_blocksAt hb
  rw [hbody]
  exact ((List.prefix_cons_inj _).mpr (hscope _ _)).isInfix.trans
    (List.suffix_append before _).isInfix

theorem isInfix_of_mem_childBlocks {b c : Block} (hc : c ∈ b.childBlocks) :
    (c.header :: c.body) <:+: b.body :=
  isInfix_of_mem_blocksAt owned_prefix_following hc

/-! ## Children of one block -/

/-- A key ends the blocks of all keys at its indent. -/
theorem continuesFrom_of_isKeyAt {indent? : Option Nat} {header l : Line}
    (hheader : isKeyAt indent? header = true) (hl : isKeyAt indent? l = true) :
    continuesFrom header l = false := by
  have hcontent := isContent_of_isKeyAt hl
  have hitem := isListItem_of_isKeyAt hl
  simp only [isKeyAt, Bool.and_eq_true, beq_iff_eq, Bool.not_eq_true'] at hheader hl
  have hindent : l.indent = header.indent :=
    Option.some.inj (hl.1.2.trans hheader.1.2.symm)
  simp [continuesFrom, hcontent, hl.2, hindent, hitem]

theorem continuesFrom_of_mem_owned {header l : Line} {following : List Line}
    (hl : l ∈ owned header following) : continuesFrom header l = true :=
  List.mem_takeWhile_imp ((List.rdropWhile_prefix _ _).subset hl)

/-- Blocks of which each one ends where the next one starts come one after the other. -/
theorem pairwise_blocksAt {opens : Line → Bool}
    (hends : ∀ header l, opens header = true → opens l = true → continuesFrom header l = false)
    {lines : List Line} (hlines : lines.Pairwise fun l m => l.number < m.number) :
    (blocksAt opens owned lines).Pairwise fun c d =>
      ∀ l ∈ c.header :: c.body, ∀ m ∈ d.header :: d.body, l.number < m.number := by
  induction lines with
  | nil => exact .nil
  | cons top rest ih =>
    obtain ⟨htop, hrest⟩ := List.pairwise_cons.mp hlines
    rw [blocksAt]
    split
    · next hopens =>
      refine .cons (fun d hd l hl m hm => ?_) (ih hrest)
      obtain ⟨before, following, rfl, hheader, hbody⟩ := exists_of_mem_blocksAt hd
      have hm' : m ∈ d.header :: following := by
        rw [hbody] at hm
        exact ((List.prefix_cons_inj _).mpr (owned_prefix_following _ _)).subset hm
      rcases List.mem_cons.mp hl with rfl | hl
      · exact htop m (List.mem_append_right before hm')
      · -- the header of the later block ends the earlier one
        rw [owned_append_of_head? (by simpa using hends top d.header hopens hheader)] at hl
        exact (List.pairwise_append.mp hrest).2.2 l ((owned_prefix_following _ _).subset hl) m hm'
    · exact ih hrest

/-- How the children of a block lie in it. A child can be looked for by its place, which is that of
its header among the lines of the body. -/
structure ChildrenFit (b : Block) : Prop where
  headers : b.childBlocks.map header = b.children
  places : b.childBlocks.map some =
    b.children.map fun l => at? b.body (b.body.idxOf l) b.body.length
  runs : ∀ c ∈ b.childBlocks, (c.header :: c.body) <:+: b.body
  apart : b.childBlocks.Pairwise fun c d => c.body.Disjoint d.body
  headerless : ∀ c ∈ b.childBlocks, ∀ l ∈ b.children, l ∉ c.body
  first : ∀ key c, b.child? key = some c ↔ ∃ before after, b.childBlocks = before ++ c :: after ∧
    c.header.key? = some key ∧ ∀ d ∈ before, d.header.key? ≠ some key
  place : ∀ key, b.child? key = (b.children.find? fun l => l.key? == some key).bind fun l =>
    at? b.body (b.body.idxOf l) b.body.length
  found : ∀ key, b.child? key ≠ none ↔ b.hasChild key = true
  entries : b.isFlowList = false → ∀ e ∈ b.entries, e.1 ∉ b.children

/-- Only the order of the lines is needed for the children to fit. -/
theorem childrenFit_of_pairwise {b : Block}
    (h : b.body.Pairwise fun l m => l.number < m.number) : b.ChildrenFit where
  headers := b.children_eq.symm
  places := by
    rw [children_eq, List.map_map]
    exact List.map_congr_left fun c hc => (at?_idxOf_header h hc).symm
  runs _ hc := isInfix_of_mem_childBlocks hc
  apart := by
    refine (pairwise_blocksAt (fun _ _ => continuesFrom_of_isKeyAt) h).imp fun {c d} hlt => ?_
    intro l hl hl'
    exact Int.lt_irrefl _ (hlt l (List.mem_cons_of_mem _ hl) l (List.mem_cons_of_mem _ hl'))
  headerless c hc l hl hmem := by
    obtain ⟨before, following, -, hheader, hbody⟩ := exists_of_mem_blocksAt hc
    rw [hbody] at hmem
    have hcontinues := continuesFrom_of_mem_owned hmem
    rw [continuesFrom_of_isKeyAt hheader (List.mem_filter.mp hl).2] at hcontinues
    cases hcontinues
  first key c := by
    simp only [child?, List.find?_eq_some_iff_append, beq_iff_eq, Bool.not_eq_true', beq_eq_false_iff_ne]
    constructor
    · rintro ⟨hkey, before, after, hblocks, hbefore⟩
      exact ⟨before, after, hblocks, hkey, hbefore⟩
    · rintro ⟨before, after, hblocks, hkey, hbefore⟩
      exact ⟨hkey, before, after, hblocks, hbefore⟩
  place key := by
    rw [children_eq, List.find?_map, child?]
    change _ = ((b.childBlocks.find? fun c => c.header.key? == some key).map header).bind _
    cases hc : b.childBlocks.find? fun c => c.header.key? == some key with
    | none => rfl
    | some c => exact (at?_idxOf_header h (List.mem_of_find?_eq_some hc)).symm
  found key := by
    rw [hasChild, children_eq, List.any_map, child?, ne_eq, List.find?_eq_none, List.any_eq_true]
    push Not
    rfl
  entries hflow e he hmem := by
    rw [entries, hflow, if_neg Bool.false_ne_true] at he
    obtain ⟨l, hl, rfl⟩ := List.mem_map.mp he
    have hitem := (List.mem_filter.mp hl).2
    rw [isItemAt_of_isKeyAt (List.mem_filter.mp hmem).2] at hitem
    cases hitem

end Block

theorem Document.sectionBody_isInfix (doc : Document) (name : Text) :
    doc.sectionBody name <:+: doc := by
  unfold sectionBody
  split
  · exact List.nil_infix
  · exact (List.drop_suffix _ _).isInfix.trans (List.take_prefix _ _).isInfix

namespace Document.Reaches

variable {doc : Document} {b : Block}

/-- A block that is reached is a run of lines of the document. -/
theorem isInfix (h : doc.Reaches b) : (b.header :: b.body) <:+: doc := by
  induction h with
  | cut h => exact Block.isInfix_of_at? h
  | entry h =>
    exact (Block.isInfix_of_mem_blocksAt (fun _ _ => List.takeWhile_prefix _) h).trans
      (sectionBody_isInfix doc _)
  | cutIn _ h ih => exact (Block.isInfix_of_at? h).trans ((List.suffix_cons _ _).isInfix.trans ih)
  | child _ h ih =>
    exact (Block.isInfix_of_mem_childBlocks (List.mem_of_find?_eq_some h)).trans
      ((List.suffix_cons _ _).isInfix.trans ih)
  | childBlock _ h ih =>
    exact (Block.isInfix_of_mem_childBlocks h).trans ((List.suffix_cons _ _).isInfix.trans ih)

end Document.Reaches

/-- **Children fit into their block.** Take any block that is reached in a document. Its children are
runs of lines of its body, with a header each and in the order of the headers; no two of them share a
line, and none holds the header of another. The child with a key is the first one with this key, and
there is one if and only if the block has the key. A list in the block has no line in common with the
keys. All this does not depend on how children are found: a search for the header in the body gives
the same blocks. -/
theorem children_fit_in_reached_block {text : Text} {b : Block}
    (h : (Document.ofText text).Reaches b) : b.ChildrenFit :=
  Block.childrenFit_of_pairwise
    (((Document.pairwise_number text).sublist h.isInfix.sublist).tail)

/-- The networks of a service. A key with a tab in its margin stands at their indent and is one of
them, and two of them have one key. -/
theorem children_fit_in_networks :
    let text : Text := ("services:\n  web:\n    networks:\n      a:\n        b: c\n      \td: e\n" ++
      "      a:\n    image: f").toList
    let networks : Block := ⟨⟨3, "    networks:".toList, false⟩, [⟨4, "      a:".toList, false⟩,
      ⟨5, "        b: c".toList, false⟩, ⟨6, "      \td: e".toList, false⟩,
      ⟨7, "      a:".toList, false⟩]⟩
    (Document.ofText text).Reaches networks ∧ networks.ChildrenFit ∧
      networks.childBlocks.map (fun c => (c.header.number, c.body.map Line.number)) =
        [(4, [5]), (6, []), (7, [])] := by
  intro text networks
  let web : Block := ⟨⟨2, "  web:".toList, false⟩,
    networks.header :: networks.body ++ [⟨8, "    image: f".toList, false⟩]⟩
  have hweb : (Document.ofText text).Reaches web :=
    .entry (show web ∈ Document.blocks _ .service by decide)
  have hnetworks : (Document.ofText text).Reaches networks :=
    .child hweb (show web.child? "networks".toList = some networks by decide)
  exact ⟨hnetworks, children_fit_in_reached_block hnetworks, by decide⟩

end ComposeLint
