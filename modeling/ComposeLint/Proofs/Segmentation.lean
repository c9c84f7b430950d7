import Mathlib.Data.List.Nodup
import ComposeLint.Proofs.Document.Blocks
import ComposeLint.Proofs.Document.Sections

/-! # Sections and entries as ranges of lines

A section and a named entry are runs of lines of the document. That a section ends where a letter
stands in the first column keeps sections apart, and that an entry ends where the next one could
start keeps entries apart: a header inside of an entry would have ended it. So the order of headers
is all that the order of ranges needs (`Document.stop_le_start`). -/

namespace ComposeLint

namespace Block

/-- The index of the header among the lines of the document. -/
def start (b : Block) : Nat := (b.header.number - 1).toNat

/-- The index of the first line after the block. -/
def stop (b : Block) : Nat := b.start + 1 + b.body.length

end Block

/-- How the entries of a section lie in it. -/
structure Section.IsCutInto (s : Section) (doc : Document) (kind : EntryKind)
    (blocks : List Block) : Prop where
  range : s.start < s.stop ∧ s.stop ≤ doc.length
  top : ∃ l, doc[s.start]? = some l ∧ l.isSectionHeader kind.sectionName = true
  run : ∀ b ∈ blocks, (doc.take b.stop).drop b.start = b.header :: b.body
  inside : ∀ b ∈ blocks, s.start < b.start ∧ b.stop ≤ s.stop
  ordered : blocks.Pairwise fun a b => a.stop ≤ b.start
  body : ∀ b ∈ blocks, ∀ l ∈ b.body, l.startsEntry = false ∧ l.startsTopLevel = false
  maximal : ∀ b ∈ blocks,
    b.stop = s.stop ∨ ∃ l, doc[b.stop]? = some l ∧ l.startsEntry = true
  header : ∀ b ∈ blocks, kind.isHeader b.header = true
  covered : ∀ i l, s.start < i → i < s.stop → doc[i]? = some l → kind.isHeader l = true →
    ∃! b, b ∈ blocks ∧ b.header = l

namespace Document

/-- A line below the header and not below the body is in the body. -/
theorem mem_of_getElem?_between {before body after : List Line} {header l : Line} {i : Nat}
    (hlow : before.length < i) (hhigh : i < before.length + 1 + body.length)
    (hl : (before ++ header :: (body ++ after))[i]? = some l) : l ∈ body := by
  rw [List.append_cons] at hl
  exact Block.mem_of_getElem?_run (by simp; omega) (by simpa using hhigh) hl

/-! ## Sections -/

section Sections

variable {doc : Document} {name : Text} {s : Section}

theorem range_of_section? (h : doc.section? name = some s) :
    s.start < s.stop ∧ s.stop ≤ doc.length := by
  obtain ⟨before, header, body, after, rfl, -, rfl⟩ := exists_isSection h
  simp only [List.length_append, List.length_cons]
  omega

theorem isSectionHeader_of_section? (h : doc.section? name = some s) :
    ∃ l, doc[s.start]? = some l ∧ l.isSectionHeader name = true := by
  obtain ⟨before, header, body, after, rfl, his, rfl⟩ := exists_isSection h
  exact ⟨header, by simp, his.header⟩

/-- A section goes no further than the next line with a letter in the first column. -/
theorem stop_le_of_startsTopLevel (h : doc.section? name = some s) {i : Nat} {l : Line}
    (hi : s.start < i) (hl : doc[i]? = some l) (htop : l.startsTopLevel = true) : s.stop ≤ i := by
  obtain ⟨before, header, body, after, rfl, his, rfl⟩ := exists_isSection h
  by_contra hstop
  have hmem : l ∈ body := mem_of_getElem?_between hi (by simpa using hstop) hl
  rw [his.body l hmem] at htop
  cases htop

/-- A line is the header of one section at most. -/
theorem eq_of_isSectionHeader {a b : Text} {l : Line} (ha : l.isSectionHeader a = true)
    (hb : l.isSectionHeader b = true) : a = b := by
  simp only [Line.isSectionHeader, Bool.and_eq_true, beq_iff_eq] at ha hb
  exact List.append_cancel_right (ha.2.symm.trans hb.2)

theorem sectionName_injective {a b : EntryKind} (h : a.sectionName = b.sectionName) : a = b := by
  revert h
  cases a <;> cases b <;> decide

/-- Two sections have no line in common. -/
theorem sections_disjoint {a b : EntryKind} (hab : a ≠ b) {s t : Section}
    (hs : doc.section? a.sectionName = some s) (ht : doc.section? b.sectionName = some t) :
    s.stop ≤ t.start ∨ t.stop ≤ s.start := by
  obtain ⟨l, hl, hheader⟩ := isSectionHeader_of_section? hs
  obtain ⟨m, hm, hheader'⟩ := isSectionHeader_of_section? ht
  rcases Nat.lt_trichotomy s.start t.start with hlt | heq | hgt
  · exact .inl (stop_le_of_startsTopLevel hs hlt hm (startsTopLevel_of_isSectionHeader hheader'))
  · rw [heq, hm] at hl
    obtain rfl := Option.some.inj hl
    exact absurd (sectionName_injective (eq_of_isSectionHeader hheader hheader')) hab
  · exact .inr (stop_le_of_startsTopLevel ht hgt hl (startsTopLevel_of_isSectionHeader hheader))

end Sections

/-! ## Cutting at an entry -/

/-- The parts of a document around entry number `k` of a section. -/
structure IsEntry (kind : EntryKind) (k : Nat) (above : List Line) (top : Line)
    (before : List Line) (entry : Block) (after below : List Line) : Prop where
  lies : IsSection kind.sectionName above top (before ++ entry.header :: (entry.body ++ after)) below
  count : before.countP kind.isHeader = k
  header : kind.isHeader entry.header = true
  body : ∀ l ∈ entry.body, l.startsEntry = false
  after : after.head?.all Line.startsEntry = true

theorem IsEntry.getElem?_blocks {kind : EntryKind} {k : Nat} {above before after below : List Line}
    {top : Line} {entry : Block} (h : IsEntry kind k above top before entry after below) :
    (blocks (above ++ top :: ((before ++ entry.header :: (entry.body ++ after)) ++ below))
      kind)[k]? = some entry := by
  have hscope : entryScope entry.header (entry.body ++ after) = entry.body := by
    rw [entryScope, List.takeWhile_append_of_pos fun l hl => by rw [h.body l hl]; rfl]
    have hafter := h.after
    cases after with
    | nil => exact List.append_nil _
    | cons l rest =>
      have hl : l.startsEntry = true := by simpa using hafter
      rw [List.takeWhile_cons_of_neg (by simp [hl]), List.append_nil]
  have hplace := Block.getElem?_blocksAt_append entryScope before (entry.body ++ after) h.header
  rwa [h.count, hscope, ← h.lies.sectionBody] at hplace

/-- Every entry cuts the document in this way. -/
theorem exists_isEntry {kind : EntryKind} {doc : Document} {k : Nat} {entry : Block}
    (h : (doc.blocks kind)[k]? = some entry) : ∃ above top before after below,
      doc = above ++ top :: ((before ++ entry.header :: (entry.body ++ after)) ++ below) ∧
        IsEntry kind k above top before entry after below := by
  cases hs : doc.section? kind.sectionName with
  | none =>
    rw [blocks_of_section?_eq_none hs] at h
    cases h
  | some s =>
    obtain ⟨above, top, body, below, rfl, his, -⟩ := exists_isSection hs
    rw [blocks, his.sectionBody] at h
    obtain ⟨before, following, rfl, hcount, hheader, hbody⟩ := Block.exists_of_getElem?_blocksAt h
    rw [entryScope] at hbody
    have hcut : following = entry.body ++ following.dropWhile (!·.startsEntry) := by
      rw [hbody, List.takeWhile_append_dropWhile]
    rw [hcut] at his
    refine ⟨above, top, before, following.dropWhile (!·.startsEntry), below, ?_, his, hcount,
      hheader, fun l hl => ?_, ?_⟩
    · rw [← hcut]
    · rw [hbody] at hl
      simpa using List.mem_takeWhile_imp hl
    · have hhead := List.head?_dropWhile_not (!·.startsEntry) following
      cases hl : (following.dropWhile (!·.startsEntry)).head? with
      | none => rfl
      | some l => simpa [hl] using hhead

/-! ## Entries -/

section Entries

variable {text : Text} {kind : EntryKind} {s : Section}
variable (hs : (ofText text).section? kind.sectionName = some s)
include hs

/-- An entry is its header and the lines down to the next entry or to the end of the section. -/
theorem exists_site {b : Block} (hb : b ∈ (ofText text).blocks kind) :
    kind.isHeader b.header = true ∧
      (∀ l ∈ b.body, l.startsEntry = false ∧ l.startsTopLevel = false) ∧
      ∃ above below after, ofText text = above ++ b.header :: (b.body ++ (below ++ after)) ∧
        s.start < above.length ∧ s.stop = above.length + 1 + b.body.length + below.length ∧
        below.head?.all Line.startsEntry = true := by
  obtain ⟨k, hk⟩ := List.getElem?_of_mem hb
  obtain ⟨above, top, before, after, below, hdoc, hentry⟩ := exists_isEntry hk
  rw [hdoc, hentry.lies.section?] at hs
  obtain rfl := Option.some.inj hs
  refine ⟨hentry.header, fun l hl => ⟨hentry.body l hl, hentry.lies.body l (by simp [hl])⟩,
    above ++ top :: before, after, below, ?_, ?_, ?_, hentry.after⟩
  · rw [hdoc]
    simp
  · simp only [List.length_append, List.length_cons]
    omega
  · simp only [List.length_append, List.length_cons]
    omega

omit hs in
/-- The index of a block is that of its header. -/
theorem start_eq_length {above following : List Line} {b : Block}
    (hdoc : ofText text = above ++ b.header :: following) : b.start = above.length := by
  have hheader : (ofText text)[above.length]? = some b.header := by simp [hdoc]
  rw [Block.start, number_of_getElem? hheader]
  omega

theorem run_of_mem_blocks {b : Block} (hb : b ∈ (ofText text).blocks kind) :
    ((ofText text).take b.stop).drop b.start = b.header :: b.body := by
  obtain ⟨-, -, above, below, after, hdoc, -⟩ := exists_site hs hb
  rw [Block.stop, start_eq_length hdoc, hdoc, take_drop_section]

theorem inside_of_mem_blocks {b : Block} (hb : b ∈ (ofText text).blocks kind) :
    s.start < b.start ∧ b.stop ≤ s.stop := by
  obtain ⟨-, -, above, below, after, hdoc, hstart, hstop, -⟩ := exists_site hs hb
  rw [Block.stop, start_eq_length hdoc, hstop]
  omega

theorem maximal_of_mem_blocks {b : Block} (hb : b ∈ (ofText text).blocks kind) :
    b.stop = s.stop ∨ ∃ l, (ofText text)[b.stop]? = some l ∧ l.startsEntry = true := by
  obtain ⟨-, -, above, below, after, hdoc, -, hstop, hhead⟩ := exists_site hs hb
  rw [Block.stop, start_eq_length hdoc, hstop]
  cases below with
  | nil => exact .inl rfl
  | cons l rest =>
    refine .inr ⟨l, ?_, by simpa using hhead⟩
    rw [hdoc]
    exact Block.getElem?_below_run above b.header b.body l (rest ++ after)

/-- An entry that comes later starts after the end of the earlier one. -/
theorem stop_le_start {a b : Block} (ha : a ∈ (ofText text).blocks kind)
    (hb : b ∈ (ofText text).blocks kind) (hlt : a.start < b.start) : a.stop ≤ b.start := by
  obtain ⟨-, hbody, above, below, after, hdoc, -⟩ := exists_site hs ha
  obtain ⟨hheader, -, above', below', after', hdoc', -⟩ := exists_site hs hb
  by_contra hstop
  -- the header of the later entry would stand in the body of the earlier one
  have hget : (ofText text)[b.start]? = some b.header := by
    rw [start_eq_length hdoc', hdoc']
    simp
  have hmem : b.header ∈ a.body := by
    rw [Block.stop, start_eq_length hdoc] at hstop
    rw [start_eq_length hdoc] at hlt
    rw [hdoc] at hget
    exact mem_of_getElem?_between hlt (by omega) hget
  have hentry := (hbody _ hmem).1
  rw [EntryKind.startsEntry_of_isHeader hheader] at hentry
  cases hentry

omit hs in
/-- Headers come in the order of the source. -/
theorem pairwise_header (text : Text) (kind : EntryKind) : ((ofText text).blocks kind).Pairwise
    fun a b => a.header.number < b.header.number := by
  rw [← List.pairwise_map (R := fun l m : Line => l.number < m.number)]
  have hheaders : ((ofText text).blocks kind).map Block.header =
      ((ofText text).sectionBody kind.sectionName).filter kind.isHeader :=
    Block.map_header_blocksAt _
  rw [hheaders]
  exact (pairwise_number text).sublist (List.filter_sublist.trans (sectionBody_sublist _ _))

theorem pairwise_blocks :
    ((ofText text).blocks kind).Pairwise fun a b => a.stop ≤ b.start := by
  refine (pairwise_header text kind).imp_of_mem fun {a b} ha hb hlt => stop_le_start hs ha hb ?_
  obtain ⟨-, -, above, below, after, hdoc, -⟩ := exists_site hs ha
  have hpos : (ofText text)[above.length]? = some a.header := by simp [hdoc]
  have hnumber := number_of_getElem? hpos
  rw [Block.start, Block.start]
  omega

/-- A line of the section that reads as a header is the header of one entry. -/
theorem existsUnique_block {i : Nat} {l : Line} (hlow : s.start < i) (hhigh : i < s.stop)
    (hl : (ofText text)[i]? = some l) (hheader : kind.isHeader l = true) :
    ∃! b, b ∈ (ofText text).blocks kind ∧ b.header = l := by
  obtain ⟨before, top, body, after, hdoc, his, rfl⟩ := exists_isSection hs
  have hmem : l ∈ body := mem_of_getElem?_between hlow hhigh (hdoc ▸ hl)
  have hheaders : ((ofText text).blocks kind).map Block.header = body.filter kind.isHeader := by
    rw [blocks, Block.map_header_blocksAt, hdoc, his.sectionBody]
  obtain ⟨b, hb, rfl⟩ : ∃ b ∈ (ofText text).blocks kind, b.header = l := by
    rw [← List.mem_map, hheaders]
    exact List.mem_filter.mpr ⟨hmem, hheader⟩
  have hnodup : (((ofText text).blocks kind).map Block.header).Nodup := by
    rw [List.Nodup, List.pairwise_map]
    exact (pairwise_header text kind).imp fun hlt heq => Int.ne_of_lt hlt (congrArg _ heq)
  exact ⟨b, ⟨hb, rfl⟩, fun c hc => List.inj_on_of_nodup_map hnodup hc.1 hb hc.2⟩

theorem isCutInto : s.IsCutInto (ofText text) kind ((ofText text).blocks kind) where
  range := range_of_section? hs
  top := isSectionHeader_of_section? hs
  run _ hb := run_of_mem_blocks hs hb
  inside _ hb := inside_of_mem_blocks hs hb
  ordered := pairwise_blocks hs
  body _ hb := (exists_site hs hb).2.1
  maximal _ hb := maximal_of_mem_blocks hs hb
  header _ hb := (exists_site hs hb).1
  covered _ _ := existsUnique_block hs

end Entries

end Document

/-- **Sections and entries are ranges of lines.** The sections that a document has lie apart from
each other. In each of them, if it is there, the entries are runs of lines after its header, apart
from each other and in their order; each goes on as far as no line starts another entry; and each
line that reads as a header heads exactly one of them. -/
theorem sections_and_entries_partition (text : Text) :
    let doc := Document.ofText text
    (∀ a b : EntryKind, a ≠ b → ∀ s t, doc.section? a.sectionName = some s →
      doc.section? b.sectionName = some t → s.stop ≤ t.start ∨ t.stop ≤ s.start) ∧
    ∀ kind : EntryKind,
      doc.section? kind.sectionName = none ∧ doc.blocks kind = [] ∨
      ∃ s, doc.section? kind.sectionName = some s ∧ s.IsCutInto doc kind (doc.blocks kind) := by
  intro doc
  refine ⟨fun a b hab s t => Document.sections_disjoint hab, fun kind => ?_⟩
  cases hs : doc.section? kind.sectionName with
  | none => exact .inl ⟨rfl, Document.blocks_of_section?_eq_none hs⟩
  | some s => exact .inr ⟨s, rfl, Document.isCutInto hs⟩

/-- An entry ends at any letter after two spaces, even where no entry starts. -/
example : let doc := Document.ofText "services:\n  a:\n    b: c\n  d e:\n  f:\n".toList
    (doc.blocks .service).map (fun b => (b.start, b.stop)) = [(1, 3), (4, 6)] := by decide

end ComposeLint
