import ComposeLint.Proofs.Bare.Block
import ComposeLint.Proofs.ScalarOwner
import ComposeLint.Proofs.Segmentation

/-! # Entry headers in block scalars

Headers of entries are found in the raw text of their lines, whether or not it is scalar text. What
keeps most scalar text from being found is the indent of its opener: a header stands at two spaces, so
the opener stands further out, and it stands below the header of the section, which opens nothing and
which no scalar reaches over. Where a section has such an opener, its text may be read as an entry
(`scalar_text_read_as_entry`); nothing else makes an entry of scalar text
(`header_is_scalar_iff_outer_opener`). -/

namespace ComposeLint

namespace Document

/-- In the section, line `j` opens a block scalar at fewer than two spaces, with no letter in the
first column, and holds every line down to line `i`. -/
structure HoldsFromOutside (doc : Document) (s : Section) (i j : Nat) (opener : Line) : Prop where
  below : s.start < j
  above : j < i
  opens : doc.OpensUntil j (i + 1) opener
  indent : opener.indent < 2
  margin : opener.startsTopLevel = false

section

variable {text : Text} {kind : EntryKind} {s : Section}
variable (hs : (ofText text).section? kind.sectionName = some s)
include hs

/-- No scalar reaches over the header of a section, and the header opens none. -/
theorem OpensUntil.start_lt {i j : Nat} {opener : Line} (h : (ofText text).OpensUntil j i opener)
    (hi : s.start < i) : s.start < j := by
  obtain ⟨top, htop, hheader⟩ := isSectionHeader_of_section? hs
  rcases Nat.lt_trichotomy s.start j with hlt | rfl | hgt
  · exact hlt
  · obtain rfl : top = opener := Option.some.inj (htop.symm.trans h.line)
    have hopens := Line.opensScalar_iff.mpr h.heads
    rw [opensScalar_sectionHeader hheader (newline_not_mem_raw (List.mem_of_getElem? htop))] at hopens
    cases hopens
  · have hheld := isHeld_some.mpr (h.holds s.start top hgt hi htop)
    rw [isHeld_sectionHeader hheader] at hheld
    cases hheld

variable {b : Block} (hb : b ∈ (ofText text).blocks kind)
include hb

theorem getElem?_start : (ofText text)[b.start]? = some b.header := by
  obtain ⟨-, -, above, below, after, hdoc, -⟩ := exists_site hs hb
  rw [start_eq_length hdoc, hdoc]
  simp

/-- An entry is scalar text only to a line further out in its section. -/
theorem holdsFromOutside_of_opensUntil {j : Nat} {opener : Line} (hj : j < b.start)
    (h : (ofText text).OpensUntil j (b.start + 1) opener) :
    (ofText text).HoldsFromOutside s b.start j opener := by
  obtain ⟨hlow, hhigh⟩ := inside_of_mem_blocks hs hb
  have hentry := EntryKind.startsEntry_of_isHeader (exists_site hs hb).1
  have hstart : s.start < j := h.start_lt hs (by omega)
  refine ⟨hstart, hj, h, ?_, ?_⟩
  · have hheld := h.holds b.start b.header hj (Nat.lt_succ_self _) (getElem?_start hs hb)
    rw [Line.isBlank_of_isContent (Line.isContent_of_startsEntry hentry),
      Line.indent_of_startsEntry hentry] at hheld
    exact hheld.resolve_left Bool.false_ne_true
  · rw [Bool.eq_false_iff]
    intro htop
    have hstop := stop_le_of_startsTopLevel hs hstart h.line htop
    rw [Block.stop] at hhigh
    omega

/-- An opener further out is a line of the section. -/
theorem HoldsFromOutside.mem_sectionBody {j : Nat} {opener : Line}
    (h : (ofText text).HoldsFromOutside s b.start j opener) :
    opener ∈ (ofText text).sectionBody kind.sectionName := by
  have hstop : j < s.stop := by
    have hinside := inside_of_mem_blocks hs hb
    have habove := h.above
    rw [Block.stop] at hinside
    omega
  obtain ⟨before, top, body, after, hdoc, his, rfl⟩ := exists_isSection hs
  have hline := h.opens.line
  rw [hdoc] at hline ⊢
  rw [his.sectionBody]
  exact mem_of_getElem?_between h.below hstop hline

theorem inScalar_header_iff : b.header.inScalar = true ↔
    ∃ j opener, (ofText text).HoldsFromOutside s b.start j opener := by
  rw [inScalar_iff (getElem?_start hs hb)]
  constructor
  · rintro ⟨j, hj, opener, h⟩
    exact ⟨j, opener, holdsFromOutside_of_opensUntil hs hb hj h⟩
  · rintro ⟨j, opener, h⟩
    exact ⟨j, h.above, opener, h.opens⟩

end

/-- Where every scalar of a section is opened at two spaces or deeper, no header is scalar text. -/
theorem inScalar_header_eq_false {text : Text} {kind : EntryKind}
    (hdeep : ∀ l ∈ (ofText text).sectionBody kind.sectionName, l.inScalar = false →
      l.opensScalar = true → 2 ≤ l.indent) :
    ∀ b ∈ (ofText text).blocks kind, b.header.inScalar = false := by
  intro b hb
  cases hs : (ofText text).section? kind.sectionName with
  | none =>
    rw [blocks_of_section?_eq_none hs] at hb
    cases hb
  | some s =>
    rw [Bool.eq_false_iff, ne_eq, inScalar_header_iff hs hb]
    rintro ⟨j, opener, h⟩
    have hindent := hdeep opener (h.mem_sectionBody hs hb) h.opens.free
      (Line.opensScalar_iff.mpr h.opens.heads)
    exact absurd h.indent (Nat.not_lt.mpr hindent)

/-- If no header is scalar text, the count is that of the headers outside of it. -/
theorem count_eq_countP_free {doc : Document} {kind : EntryKind}
    (hfree : ∀ b ∈ doc.blocks kind, b.header.inScalar = false) :
    Counts.ofDocument.count doc kind =
      ((doc.sectionBody kind.sectionName).filter (!·.inScalar)).countP kind.isHeader := by
  have hheaders : (doc.blocks kind).map Block.header =
      (doc.sectionBody kind.sectionName).filter kind.isHeader := Block.map_header_blocksAt _
  rw [Counts.ofDocument.count, List.countP_filter]
  refine List.countP_congr fun l hl => ?_
  constructor
  · intro hheader
    obtain ⟨b, hb, rfl⟩ := List.mem_map.mp (hheaders ▸ List.mem_filter.mpr ⟨hl, hheader⟩)
    rw [hheader, hfree b hb]
    rfl
  · intro h
    exact (Bool.and_eq_true_iff.mp h).1

end Document

/-- **Where scalar text is read as an entry.** The header of an entry is scalar text if and only if a
line of its section holds it that opened a block scalar at fewer than two spaces. So where every
scalar of a section is opened at two spaces or deeper, no entry of the section is scalar text, and the
lines that are counted are the headers outside of scalar text. -/
theorem header_is_scalar_iff_outer_opener (text : Text) (kind : EntryKind) :
    let doc := Document.ofText text
    (∀ s, doc.section? kind.sectionName = some s → ∀ b ∈ doc.blocks kind,
      (b.header.inScalar = true ↔ ∃ j opener, doc.HoldsFromOutside s b.start j opener)) ∧
    ((∀ l ∈ doc.sectionBody kind.sectionName, l.inScalar = false → l.opensScalar = true →
        2 ≤ l.indent) →
      (∀ b ∈ doc.blocks kind, b.header.inScalar = false) ∧
      Counts.ofDocument.count doc kind =
        ((doc.sectionBody kind.sectionName).filter (!·.inScalar)).countP kind.isHeader) := by
  intro doc
  refine ⟨fun s hs b hb => Document.inScalar_header_iff hs hb, fun hdeep => ?_⟩
  have hfree := Document.inScalar_header_eq_false hdeep
  exact ⟨hfree, Document.count_eq_countP_free hfree⟩

/-- Texts of scalars that are counted and listed as services: the scalar of an item, of a key that
starts with a sign, and of a key behind a tab. -/
theorem scalar_text_read_as_entry :
    let texts : List Text := ["services:\n- |\n  web:", "services:\n_a: |\n  web:",
      "services:\n\ta: |\n  web:"].map String.toList
    ∀ text ∈ texts, (Counts.read text).services = 1 ∧
      (Stack.read text).services.map (·.name) = ["web".toList] ∧
      ∃ b ∈ (Document.ofText text).blocks .service, b.header.inScalar = true := by
  decide

end ComposeLint
