import ComposeLint.Check.Structure
import ComposeLint.Proofs.Bare.Block
import ComposeLint.Proofs.NestedBlocks
import ComposeLint.Proofs.ScalarOwner
import ComposeLint.Proofs.Segmentation

/-! # Children are cut alike from an entry and from the document

The block of a key below an entry is cut from the lines of the entry when the entry is read, and
from the whole document when the placement of sections is checked. An entry ends where a letter
stands at two spaces or in the first column, and a line like that ends every block whose header has
two spaces or more (`Block.continuesFrom_of_endsScope`). Only where it is scalar text it does not; but
then the line that opened the scalar stands further out still, so that it has ended the block before
(`Document.owned_append_of_endsScope`). -/

namespace ComposeLint

namespace Line

variable {l : Line}

/-- A line at which the scope of an entry may end. -/
def EndsScope (l : Line) : Prop := l.startsEntry = true ∨ l.startsTopLevel = true

theorem EndsScope.exists_letter (h : l.EndsScope) :
    ∃ c, Text.isLetter c = true ∧ l.raw.trimStart.head? = some c :=
  h.elim exists_letter_of_startsEntry exists_letter_of_startsTopLevel

theorem EndsScope.indent_le (h : l.EndsScope) : l.indent ≤ 2 := by
  rcases h with h | h
  · rw [indent_of_startsEntry h]
  · rw [indent_of_startsTopLevel h]
    omega

end Line

namespace Block

theorem continuesFrom_of_endsScope {header l : Line} (hl : l.EndsScope)
    (hindent : 2 ≤ header.indent) (hfree : l.inScalar = false) :
    continuesFrom header l = false := by
  obtain ⟨c, hc, hhead⟩ := hl.exists_letter
  have hle := hl.indent_le
  simp [continuesFrom, Line.isContent_of_letter hc hhead, hfree,
    Line.isListItem_eq_false_of_letter hc hhead]
  omega

end Block

namespace Document

/-- An entry is followed by the end of the document or by a line that ends its scope. -/
theorem exists_scope {doc : Document} {kind : EntryKind} {entry : Block}
    (h : entry ∈ doc.blocks kind) : ∃ above below,
      doc = above ++ entry.header :: (entry.body ++ below) ∧ ∀ l ∈ below.head?, l.EndsScope := by
  obtain ⟨k, hk⟩ := List.getElem?_of_mem h
  obtain ⟨above, top, before, after, below, rfl, hentry⟩ := exists_isEntry hk
  refine ⟨above ++ top :: before, after ++ below, by simp, fun l hl => ?_⟩
  cases after with
  | nil =>
    have hbelow := hentry.lies.after
    rw [List.nil_append, Option.mem_def] at hl
    rw [hl] at hbelow
    exact .inr (by simpa using hbelow)
  | cons m rest =>
    obtain rfl : m = l := by simpa using hl
    exact .inl (by simpa using hentry.after)

/-- Scalar text that does not stand deeper than some line further up has an opener below that line,
which stands further out than both. -/
theorem exists_opener_between {text : Text} {front following rest : List Line} {header l : Line}
    (hdoc : ofText text = front ++ header :: (following ++ l :: rest))
    (hheader : header.inScalar = false) (hl : l.inScalar = true) (hshown : l.isBlank = false)
    (hindent : l.indent ≤ header.indent) :
    ∃ opener ∈ following, opener.inScalar = false ∧ opener.isContent = true ∧
      opener.indent < l.indent := by
  have hline : (ofText text)[front.length + 1 + following.length]? = some l := by
    rw [hdoc]
    exact Block.getElem?_below_run front header following l rest
  have hheaderLine : (ofText text)[front.length]? = some header := by
    simp [hdoc]
  obtain ⟨j, hj, opener, hopener⟩ := (inScalar_iff hline).mp hl
  have hlower : opener.indent < l.indent :=
    (hopener.holds _ l hj (Nat.lt_succ_self _) hline).resolve_left (by simp [hshown])
  rcases Nat.lt_trichotomy j front.length with hlt | rfl | hgt
  · -- an opener further up would hold the header as well
    have hmarked := (inScalar_iff hheaderLine).mpr ⟨j, hlt, opener, hopener.of_le (by omega)⟩
    rw [hheader] at hmarked
    cases hmarked
  · obtain rfl : header = opener := Option.some.inj (hheaderLine.symm.trans hopener.line)
    omega
  · have hmem : opener ∈ following := by
      have hbelow := hopener.line
      rw [hdoc, List.append_cons] at hbelow
      exact Block.mem_of_getElem?_run (by simp; omega) (by simp; omega) hbelow
    exact ⟨opener, hmem, hopener.free,
      Line.isContent_of_opensScalar (Line.opensScalar_iff.mpr hopener.heads), hlower⟩

/-- The lines after the scope of an entry have no part in what a header in it owns. -/
theorem owned_append_of_endsScope {text : Text} {front following below : List Line} {header : Line}
    (hdoc : ofText text = front ++ header :: (following ++ below))
    (hheader : header.inScalar = false) (hindent : 2 ≤ header.indent)
    (hbelow : ∀ l ∈ below.head?, l.EndsScope) :
    Block.owned header (following ++ below) = Block.owned header following := by
  cases below with
  | nil => rw [List.append_nil]
  | cons l rest =>
    have hl : l.EndsScope := hbelow l rfl
    cases hscalar : l.inScalar with
    | false =>
      refine Block.owned_append_of_head? (fun m hm => ?_) following
      obtain rfl : l = m := by simpa using hm
      exact Block.continuesFrom_of_endsScope hl hindent hscalar
    | true =>
      obtain ⟨c, hc, hhead⟩ := hl.exists_letter
      have hle := hl.indent_le
      obtain ⟨opener, hmem, hfree, hcontent, hlt⟩ := exists_opener_between hdoc hheader hscalar
        (Line.isBlank_of_isContent (Line.isContent_of_letter hc hhead)) (by omega)
      refine Block.owned_append_of_ends hmem ?_ _
      exact Block.continuesFrom_eq_false_iff.mpr
        ⟨hcontent, hfree, by omega, fun heq => by omega⟩

end Document

/-- **Two ways of cutting a child agree.** Take an entry of a section and a key directly below it that
stands at two spaces or deeper. The child of the entry that has this key for its header, found by its
place in the body of the entry, is the block that is cut at the line of the key from the whole
document; so if placement is checked there, it is checked of the same block. -/
theorem child_cut_from_document {text : Text} {kind : EntryKind} {entry : Block} {l : Line}
    (hentry : entry ∈ (Document.ofText text).blocks kind) (hl : l ∈ entry.children)
    (hindent : 2 ≤ l.indent) :
    ∃ child ∈ entry.childBlocks, child.header = l ∧
      Block.at? entry.body (entry.body.idxOf l) entry.body.length = some child ∧
      Block.at? (Document.ofText text) (l.number - 1).toNat (Document.ofText text).length =
        some child ∧
      (Check.isIndentedKey l = true →
        child ∈ Block.blocksAt Check.isIndentedKey Block.owned (Document.ofText text)) := by
  rw [Block.children_eq] at hl
  obtain ⟨child, hchild, rfl⟩ := List.mem_map.mp hl
  obtain ⟨above, below, hdoc, hbelow⟩ := Document.exists_scope hentry
  obtain ⟨before, following, hbody, hheader, howned⟩ := Block.exists_of_mem_blocksAt hchild
  let front := above ++ entry.header :: before
  have hfront : Document.ofText text = front ++ child.header :: (following ++ below) := by
    rw [hdoc, hbody]
    simp [front]
  have hfree : child.header.inScalar = false := by
    simp only [Block.isKeyAt, Bool.and_eq_true, Bool.not_eq_true'] at hheader
    exact hheader.2
  have hsame : child = ⟨child.header, Block.owned child.header (following ++ below)⟩ := by
    rw [Document.owned_append_of_endsScope hfront hfree hindent hbelow, ← howned]
  have hline : (Document.ofText text)[front.length]? = some child.header := by
    simp [hfront]
  have hplace : (child.header.number - 1).toNat = front.length := by
    rw [Document.number_of_getElem? hline]
    omega
  refine ⟨child, hchild, rfl, ?_, ?_, fun hindented => ?_⟩
  · exact Block.at?_idxOf_header ((Document.pairwise_number text).sublist
      (Document.isIn_of_mem_blocks hentry).body_sublist) hchild
  · rw [hplace, hfront, Block.at?_append, ← hsame]
  · have hplaced := Block.getElem?_blocksAt_append Block.owned front
      (following ++ below) hindented
    rw [← hfront, ← hsame] at hplaced
    exact List.mem_of_getElem? hplaced

/-- The next entry is scalar text here: a key with a tab in its margin opened it, and does not count
for where the children of the first entry stand. -/
theorem child_cut_above_scalar :
    let text : Text := "services:\n  web:\n    networks:\n      a:\n\tx: |\n  db:\n   y".toList
    let doc := Document.ofText text
    let networks : Line := ⟨3, "    networks:".toList, false⟩
    let web : Block := ⟨⟨2, "  web:".toList, false⟩,
      [networks, ⟨4, "      a:".toList, false⟩, ⟨5, "\tx: |".toList, false⟩]⟩
    (web ∈ doc.blocks .service ∧ networks ∈ web.children ∧ 2 ≤ networks.indent) ∧
      (∃ child ∈ web.childBlocks, child.header = networks ∧
        Block.at? doc (networks.number - 1).toNat doc.length = some child) ∧
      (Block.at? doc 2 doc.length).map (·.body) = some [⟨4, "      a:".toList, false⟩] ∧
      doc[5]?.map Line.inScalar = some true := by
  intro text doc networks web
  have hweb : web ∈ doc.blocks .service := by decide
  have hnetworks : networks ∈ web.children := by decide
  have hindent : 2 ≤ networks.indent := by decide
  obtain ⟨child, hchild, hheader, -, hat, -⟩ := child_cut_from_document hweb hnetworks hindent
  exact ⟨⟨hweb, hnetworks, hindent⟩, ⟨child, hchild, hheader, hat⟩, by decide, by decide⟩

end ComposeLint
