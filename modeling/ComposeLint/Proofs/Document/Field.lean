import ComposeLint.Proofs.Document.Replaced
import ComposeLint.Proofs.NestedBlocks
import ComposeLint.Proofs.Segmentation

/-! # Fields of entries

A field is a child of an entry. No line stands in two entries, nor in two children of one, so a line
that is replaced inside of a field is replaced nowhere else. -/

namespace ComposeLint

/-- A child of an entry. -/
structure Document.Field (doc : Document) where
  kind : EntryKind
  entry : Block
  child : Block
  entry_mem : entry ∈ doc.blocks kind
  child_mem : child ∈ entry.childBlocks

/-- The lines in order, each child stands apart from the others. -/
theorem Block.eq_of_mem_childBlocks {b c d : Block} {l : Line}
    (h : b.body.Pairwise fun l m => l.number < m.number) (hc : c ∈ b.childBlocks)
    (hd : d ∈ b.childBlocks) (hl : l ∈ c.header :: c.body) (hl' : l ∈ d.header :: d.body) :
    c = d := by
  have hblocks := @pairwise_blocksAt (isKeyAt b.childIndent?)
    (fun _ _ => continuesFrom_of_isKeyAt) _ h
  obtain ⟨i, hi, rfl⟩ := List.getElem_of_mem hc
  obtain ⟨j, hj, rfl⟩ := List.getElem_of_mem hd
  rcases Nat.lt_trichotomy i j with hlt | rfl | hgt
  · exact absurd (List.pairwise_iff_getElem.mp hblocks i j hi hj hlt l hl l hl') (Int.lt_irrefl _)
  · rfl
  · exact absurd (List.pairwise_iff_getElem.mp hblocks j i hj hi hgt l hl' l hl) (Int.lt_irrefl _)

namespace Document

variable {text : Text} {kind : EntryKind} {s : Section}

theorem section?_of_mem_blocks {doc : Document} {b : Block} (hb : b ∈ doc.blocks kind) :
    ∃ s, doc.section? kind.sectionName = some s := by
  cases hs : doc.section? kind.sectionName with
  | none =>
    rw [blocks_of_section?_eq_none hs] at hb
    cases hb
  | some s => exact ⟨s, rfl⟩

/-- The lines of an entry are numbered as they stand in the document. -/
theorem number_of_mem_body (hs : (ofText text).section? kind.sectionName = some s) {b : Block}
    (hb : b ∈ (ofText text).blocks kind) {l : Line} (hl : l ∈ b.body) :
    (b.start : Int) + 1 < l.number ∧ l.number ≤ b.stop := by
  obtain ⟨-, -, above, below, after, hdoc, -⟩ := exists_site hs hb
  obtain ⟨i, hi, rfl⟩ := List.getElem_of_mem hl
  have hget : (ofText text)[above.length + 1 + i]? = some b.body[i] := by
    rw [hdoc, List.append_cons, List.getElem?_append_right (by simp),
      List.getElem?_append_left (by simpa using hi)]
    simp
  have hnumber := number_of_getElem? hget
  rw [Block.stop, start_eq_length hdoc]
  omega

/-- A line stands in one entry at most. -/
theorem eq_of_mem_body {kind' : EntryKind} {a b : Block} (ha : a ∈ (ofText text).blocks kind)
    (hb : b ∈ (ofText text).blocks kind') {l : Line} (hl : l ∈ a.body) (hl' : l ∈ b.body) :
    kind = kind' ∧ a = b := by
  obtain ⟨s, hs⟩ := section?_of_mem_blocks ha
  obtain ⟨t, ht⟩ := section?_of_mem_blocks hb
  have hline := number_of_mem_body hs ha hl
  have hline' := number_of_mem_body ht hb hl'
  have hinside := inside_of_mem_blocks hs ha
  have hinside' := inside_of_mem_blocks ht hb
  obtain rfl : kind = kind' := by
    by_contra hkind
    rcases sections_disjoint hkind hs ht with hlt | hlt <;> omega
  obtain rfl : s = t := Option.some.inj (hs.symm.trans ht)
  refine ⟨rfl, ?_⟩
  rcases Nat.lt_trichotomy a.start b.start with hlt | heq | hgt
  · have hstop := stop_le_start hs ha hb hlt
    omega
  · obtain ⟨hheader, -, above, below, after, hdoc, -⟩ := exists_site hs ha
    obtain ⟨-, -, above', below', after', hdoc', -⟩ := exists_site hs hb
    have hget : (ofText text)[a.start]? = some a.header := by
      rw [start_eq_length hdoc, hdoc]
      simp
    have hget' : (ofText text)[a.start]? = some b.header := by
      rw [heq, start_eq_length hdoc', hdoc']
      simp
    have hsame : b.header = a.header := Option.some.inj (hget'.symm.trans hget)
    have hstop : a.start < s.stop := by omega
    exact (existsUnique_block hs hinside.1 hstop hget hheader).unique ⟨ha, rfl⟩ ⟨hb, hsame⟩
  · have hstop := stop_le_start hs hb ha hgt
    omega

namespace Field

variable (f : (ofText text).Field)

theorem pairwise_body : f.entry.body.Pairwise fun l m => l.number < m.number :=
  (pairwise_number text).sublist (isIn_of_mem_blocks f.entry_mem).body_sublist

theorem childrenFit : f.entry.ChildrenFit := Block.childrenFit_of_pairwise f.pairwise_body

theorem isInfix : (f.child.header :: f.child.body) <:+: f.entry.body :=
  Block.isInfix_of_mem_childBlocks f.child_mem

/-- The header comes before the body. -/
theorem header_not_mem_body : f.child.header ∉ f.child.body := fun hmem =>
  Int.lt_irrefl _ ((List.pairwise_cons.mp (f.pairwise_body.sublist f.isInfix.sublist)).1 _ hmem)

variable {f} {l m : Line} (hl : l ∈ f.child.header :: f.child.body)
include hl

theorem mem_body : l ∈ f.entry.body := f.isInfix.subset hl

/-- Other entries have the lines that they had. -/
theorem withLines_entry {b : Block} (hb : b ∈ (ofText text).blocks kind)
    (hne : ¬(kind = f.kind ∧ b = f.entry)) : b.withLines (Line.replaced l m) = b := by
  have hbody : l ∉ b.body := fun hmem =>
    hne (Document.eq_of_mem_body hb f.entry_mem hmem (mem_body hl))
  have hheader : b.header ≠ l := fun heq => by
    obtain ⟨-, -, -, hheader, -⟩ := Block.exists_of_mem_blocksAt hb
    obtain ⟨s, hs⟩ := section?_of_mem_blocks f.entry_mem
    have hstarts := ((exists_site hs f.entry_mem).2.1 l (mem_body hl)).1
    rw [← heq, EntryKind.startsEntry_of_isHeader hheader] at hstarts
    cases hstarts
  rw [Block.withLines, Line.replaced_of_ne hheader, Line.map_replaced_of_not_mem hbody]

/-- Other children have the lines that they had. -/
theorem withLines_child {c : Block} (hc : c ∈ f.entry.childBlocks) (hne : c ≠ f.child) :
    c.withLines (Line.replaced l m) = c := by
  have hmem : l ∉ c.header :: c.body := fun hmem =>
    hne (Block.eq_of_mem_childBlocks f.pairwise_body hc f.child_mem hmem hl)
  obtain ⟨hheader, hbody⟩ := not_or.mp (List.mem_cons.not.mp hmem)
  rw [Block.withLines, Line.replaced_of_ne (Ne.symm hheader), Line.map_replaced_of_not_mem hbody]

end Field

end Document

end ComposeLint
