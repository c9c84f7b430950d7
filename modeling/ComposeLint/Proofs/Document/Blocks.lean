import ComposeLint.Proofs.Moved.Line
import ComposeLint.Proofs.Text.Cuts
import ComposeLint.Stack.Reader

/-! # Cutting lines into blocks

What becomes of known lines: where the blocks stand that are cut from them, and where a block ends
that reaches over some of them. -/

namespace ComposeLint

namespace Block

/-! ## Runs of lines -/

/-- A line whose index is in a run of lines is in the run. -/
theorem mem_of_getElem?_run {before run after : List Line} {i : Nat} {l : Line}
    (hlow : before.length ≤ i) (hhigh : i < before.length + run.length)
    (hl : (before ++ (run ++ after))[i]? = some l) : l ∈ run := by
  rw [List.getElem?_append_right hlow, List.getElem?_append_left (by omega)] at hl
  exact List.mem_of_getElem? hl

/-- The line below a header and a run of lines. -/
theorem getElem?_below_run (before : List Line) (header : Line) (run : List Line) (l : Line)
    (after : List Line) :
    (before ++ header :: (run ++ l :: after))[before.length + 1 + run.length]? = some l := by
  have hassoc : before ++ header :: (run ++ l :: after) = (before ++ header :: run) ++ l :: after := by
    simp
  have hindex : before.length + 1 + run.length = (before ++ header :: run).length := by
    rw [List.length_append, List.length_cons]
    omega
  rw [hassoc, hindex, List.getElem?_append_right (Nat.le_refl _), Nat.sub_self]
  rfl

/-! ## Blocks of a run -/

variable {opens : Line → Bool} {scope : Line → List Line → List Line}

/-- The block of a header comes after as many blocks as there are headers above it. -/
theorem getElem?_blocksAt_append (scope : Line → List Line → List Line) (before : List Line)
    {header : Line} (following : List Line) (hopens : opens header = true) :
    (blocksAt opens scope (before ++ header :: following))[before.countP opens]? =
      some ⟨header, scope header following⟩ := by
  induction before with
  | nil =>
    rw [List.nil_append, List.countP_nil, blocksAt, if_pos hopens]
    rfl
  | cons l rest ih =>
    rw [List.cons_append, blocksAt]
    by_cases hl : opens l = true
    · rw [if_pos hl, List.countP_cons_of_pos hl, List.getElem?_cons_succ, ih]
    · rw [if_neg hl, List.countP_cons_of_neg hl, ih]

/-- Where the block of an index stands among the lines that it was cut from. -/
theorem exists_of_getElem?_blocksAt {b : Block} {lines : List Line} {k : Nat}
    (h : (blocksAt opens scope lines)[k]? = some b) :
    ∃ before following, lines = before ++ b.header :: following ∧ before.countP opens = k ∧
      opens b.header = true ∧ b.body = scope b.header following := by
  induction lines generalizing k with
  | nil => cases h
  | cons l rest ih =>
    rw [blocksAt] at h
    by_cases hl : opens l = true
    · rw [if_pos hl] at h
      cases k with
      | zero =>
        obtain rfl : ⟨l, scope l rest⟩ = b := by simpa using h
        exact ⟨[], rest, rfl, rfl, hl, rfl⟩
      | succ k =>
        obtain ⟨before, following, rfl, hcount, hopens, hbody⟩ := ih (by simpa using h)
        refine ⟨l :: before, following, rfl, ?_, hopens, hbody⟩
        rw [List.countP_cons_of_pos hl, hcount]
    · rw [if_neg hl] at h
      obtain ⟨before, following, rfl, hcount, hopens, hbody⟩ := ih h
      refine ⟨l :: before, following, rfl, ?_, hopens, hbody⟩
      rw [List.countP_cons_of_neg hl, hcount]

/-- Where a block stands among the lines that it was cut from. -/
theorem exists_of_mem_blocksAt {b : Block} {lines : List Line}
    (h : b ∈ blocksAt opens scope lines) :
    ∃ before following, lines = before ++ b.header :: following ∧ opens b.header = true ∧
      b.body = scope b.header following := by
  obtain ⟨k, hk⟩ := List.getElem?_of_mem h
  obtain ⟨before, following, hlines, -, hopens, hbody⟩ := exists_of_getElem?_blocksAt hk
  exact ⟨before, following, hlines, hopens, hbody⟩

theorem blocksAt_append_of_none {a b : List Line} (h : ∀ l ∈ a, opens l = false) :
    blocksAt opens scope (a ++ b) = blocksAt opens scope b := by
  induction a with
  | nil => rfl
  | cons l rest ih =>
    rw [List.cons_append, blocksAt, h l (by simp), if_neg (by simp),
      ih fun m hm => h m (by simp [hm])]

theorem blocksAt_eq_nil {lines : List Line} (h : ∀ l ∈ lines, opens l = false) :
    blocksAt opens scope lines = [] := by
  have happend := @blocksAt_append_of_none opens scope lines [] h
  rwa [List.append_nil] at happend

theorem map_header_blocksAt (lines : List Line) :
    (blocksAt opens scope lines).map header = lines.filter opens := by
  induction lines with
  | nil => rfl
  | cons l rest ih =>
    rw [blocksAt, List.filter_cons]
    split
    · rw [List.map_cons, ih]
    · exact ih

/-- A header owns a run of content that continues it, up to a line that does not. -/
theorem owned_append {header : Line} {own rest : List Line}
    (hown : ∀ l ∈ own, continuesFrom header l = true ∧ l.isContent = true)
    (hrest : rest.head?.all (!continuesFrom header ·) = true) :
    owned header (own ++ rest) = own := by
  have hreach : (own ++ rest).takeWhile (continuesFrom header) = own := by
    rw [List.takeWhile_append_of_pos fun l hl => (hown l hl).1]
    cases rest with
    | nil => simp
    | cons l rest => rw [List.takeWhile_cons_of_neg (by simpa using hrest), List.append_nil]
  rw [owned, hreach]
  cases hlast : own.reverse with
  | nil => simpa using hlast.symm
  | cons l others =>
    have hl : l ∈ own := List.mem_reverse.mp (hlast ▸ List.mem_cons_self)
    rw [List.dropWhile_cons_of_neg (by simp [(hown l hl).2]), ← hlast, List.reverse_reverse]

/-- The keys directly below a header are the headers of the blocks there. -/
theorem children_eq (b : Block) : b.children = b.childBlocks.map header := by
  rw [childBlocks, map_header_blocksAt, children, content, List.filter_filter]
  refine List.filter_congr fun l _ => ?_
  cases hkey : isKeyAt b.childIndent? l with
  | false => rfl
  | true =>
    simp only [isKeyAt, Bool.and_eq_true] at hkey
    rw [Line.isContent_of_isMappingKey hkey.1.1, Bool.and_self]

theorem isMappingKey_of_mem_children {b : Block} {l : Line} (h : l ∈ b.children) :
    l.isMappingKey = true := by
  have hopens := (List.mem_filter.mp h).2
  simp only [isKeyAt, Bool.and_eq_true] at hopens
  exact hopens.1.1

theorem mem_body_of_mem_children {b : Block} {l : Line} (h : l ∈ b.children) : l ∈ b.body :=
  (List.mem_filter.mp (List.mem_filter.mp h).1).1

/-! ## Lines of blocks -/

/-- All lines of the block are among these, and in their order. -/
def IsIn (lines : List Line) (b : Block) : Prop := (b.header :: b.body).Sublist lines

theorem owned_sublist (header : Line) (following : List Line) :
    (owned header following).Sublist following :=
  (List.rdropWhile_prefix _ _).sublist.trans (List.takeWhile_sublist _)

/-- A scope that takes of the lines after a header adds none of its own to them. -/
theorem isIn_of_mem_blocksAt {b : Block} {lines : List Line}
    (hscope : ∀ header following, (scope header following).Sublist following)
    (hb : b ∈ blocksAt opens scope lines) : b.IsIn lines := by
  obtain ⟨before, following, rfl, -, hbody⟩ := exists_of_mem_blocksAt hb
  rw [IsIn, hbody]
  exact ((hscope b.header following).cons_cons b.header).trans (List.sublist_append_right _ _)

namespace IsIn

variable {lines : List Line} {b : Block} (h : b.IsIn lines)
include h

theorem header_mem : b.header ∈ lines := h.mem List.mem_cons_self

theorem body_sublist : b.body.Sublist lines := (List.sublist_cons_self _ _).trans h

/-- The children of a block hold lines of its body only, so this goes on at every depth. -/
theorem child {key : Text} {c : Block} (hc : b.child? key = some c) : c.IsIn lines :=
  (isIn_of_mem_blocksAt owned_sublist (List.mem_of_find?_eq_some hc)).trans h.body_sublist

theorem entry_mem {e : Line × Text} (he : e ∈ b.entries) : e.1 ∈ lines := by
  unfold entries at he
  split at he
  · obtain ⟨part, -, rfl⟩ := List.mem_map.mp he
    exact h.header_mem
  · obtain ⟨l, hl, rfl⟩ := List.mem_map.mp he
    exact h.body_sublist.mem (List.mem_filter.mp hl).1

end IsIn

/-! ## Lists in brackets -/

section

variable {b : Block} {inside : Text} (h : b.value = '[' :: (inside ++ [']']))
include h

theorem isFlowList_of_value : b.isFlowList = true := by
  rw [isFlowList, h, ← List.cons_append, List.getLast?_concat]
  rfl

theorem entries_of_value : b.entries = inside.pieces.map fun part => (b.header, part) := by
  rw [entries, if_pos (isFlowList_of_value h), h, List.drop_one, List.tail_cons, List.dropLast_concat]
  rfl

end

end Block

namespace Document

theorem sectionBody_sublist (doc : Document) (name : Text) : (doc.sectionBody name).Sublist doc := by
  unfold sectionBody
  split
  · exact List.nil_sublist doc
  · exact (List.drop_sublist _ _).trans (List.take_sublist _ _)

/-- An entry reaches over lines of the document in their order. -/
theorem isIn_of_mem_blocks {doc : Document} {kind : EntryKind} {b : Block}
    (hb : b ∈ doc.blocks kind) : b.IsIn doc :=
  (Block.isIn_of_mem_blocksAt (fun _ _ => List.takeWhile_sublist _) hb).trans
    (sectionBody_sublist doc _)

end Document

namespace EntryKind

theorem startsEntry_of_isHeader {kind : EntryKind} {l : Line} (h : kind.isHeader l = true) :
    l.startsEntry = true := by
  rw [← Line.moved_startsEntry id, Line.startsEntry, Line.moved_raw]
  unfold isHeader at h
  split at h
  · next c rest hraw =>
    simp only [Bool.and_eq_true] at h
    simp only [h.1]
  · cases h

end EntryKind

end ComposeLint
