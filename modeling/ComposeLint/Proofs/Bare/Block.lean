import ComposeLint.Proofs.Document.Blocks
import ComposeLint.Proofs.Document.Sections

/-! # Blocks without blank lines and comments

Headers, keys and items are content, and a line that carries nothing continues every block. So what
is cut from the content of some lines is what is cut from all of them, less the lines that carry
nothing (`Block.blocksAt_filter`). -/

namespace ComposeLint

/-! ## Lines with content -/

/-- A text that has anything but blanks keeps its first such character. -/
theorem Text.head?_trim (t : Text) : t.trim.head? = t.trimStart.head? := by
  have hfirst := List.head?_dropWhile_not isBlank t
  rw [trim, trimStart]
  cases h : t.dropWhile isBlank with
  | nil => rfl
  | cons c rest =>
    have hc : isBlank c = false := by simpa [h] using hfirst
    have hkept := dropEndWhile_append_cons hc [] rest
    rw [List.nil_append, List.nil_append] at hkept
    rw [trimEnd, hkept, List.head?_cons, List.head?_cons]

namespace Line

variable {l : Line}

theorem isComment_iff : l.isComment = true ↔ l.trimmed.head? = some '#' := by
  unfold isComment role Role.ofTrimmed
  split
  · next h => simp [h]
  · next h => simp [h]
  · next h => simp [h]
  · next hhash _ =>
    have hhead : l.trimmed.head? ≠ some '#' := fun h => by
      obtain ⟨rest, hrest⟩ := List.head?_eq_some_iff.mp h
      exact hhash rest hrest
    split <;> simp [hhead]

/-- Only a number sign in front takes its meaning from a line with text. -/
theorem isContent_of_head? {c : Char} (h : l.trimmed.head? = some c) (hc : c ≠ '#') :
    l.isContent = true := by
  have hblank : l.isBlank = false := by
    rw [Bool.eq_false_iff, ne_eq, isBlank_iff]
    intro hnil
    rw [hnil] at h
    cases h
  have hcomment : l.isComment = false := by
    rw [Bool.eq_false_iff, ne_eq, isComment_iff, h, Option.some.injEq]
    exact hc
  simp [isContent, hblank, hcomment]

theorem isContent_of_letter {c : Char} (hc : Text.isLetter c = true)
    (h : l.raw.trimStart.head? = some c) : l.isContent = true := by
  refine isContent_of_head? (c := c) ?_ (Text.ne_of_isLetter hc (by decide))
  rw [trimmed, Text.head?_trim, h]

theorem isListItem_eq_false_of_letter {c : Char} (hc : Text.isLetter c = true)
    (h : l.raw.trimStart.head? = some c) : l.isListItem = false := by
  have hhead : l.trimmed.head? = some c := by rw [trimmed, Text.head?_trim, h]
  obtain ⟨rest, hrest⟩ := List.head?_eq_some_iff.mp hhead
  have hdash : c ≠ '-' := Text.ne_of_isLetter hc (by decide)
  have hhash : c ≠ '#' := Text.ne_of_isLetter hc (by decide)
  unfold isListItem role
  rw [hrest, Role.ofTrimmed_eq_of_head ⟨hhash, hdash⟩]
  cases KeyValue.read? (c :: rest) <;> rfl

/-- Lines that start a section or an entry show a letter first. -/
theorem exists_letter_of_startsTopLevel (h : l.startsTopLevel = true) :
    ∃ c, Text.isLetter c = true ∧ l.raw.trimStart.head? = some c := by
  obtain ⟨c, hc, rest, hraw⟩ := startsTopLevel_iff.mp h
  refine ⟨c, hc, ?_⟩
  rw [← hraw, Text.trimStart, List.singleton_append,
    List.dropWhile_cons_of_neg (by simp [Text.isBlank_eq_false_of_isLetter hc]), List.head?_cons]

theorem exists_letter_of_startsEntry (h : l.startsEntry = true) :
    ∃ c, Text.isLetter c = true ∧ l.raw.trimStart.head? = some c := by
  obtain ⟨c, hc, rest, hraw⟩ := startsEntry_iff.mp h
  have hspace : Text.isBlank ' ' = true := by decide
  refine ⟨c, hc, ?_⟩
  rw [← hraw, Text.trimStart, List.cons_append, List.dropWhile_cons_of_pos hspace,
    List.cons_append, List.dropWhile_cons_of_pos hspace, List.singleton_append,
    List.dropWhile_cons_of_neg (by simp [Text.isBlank_eq_false_of_isLetter hc]), List.head?_cons]

theorem isContent_of_startsTopLevel (h : l.startsTopLevel = true) : l.isContent = true := by
  obtain ⟨c, hc, hhead⟩ := exists_letter_of_startsTopLevel h
  exact isContent_of_letter hc hhead

theorem isContent_of_startsEntry (h : l.startsEntry = true) : l.isContent = true := by
  obtain ⟨c, hc, hhead⟩ := exists_letter_of_startsEntry h
  exact isContent_of_letter hc hhead

end Line

namespace Block

/-! ## One block -/

/-- The block without the lines that carry nothing. -/
def bare (b : Block) : Block := ⟨b.header, b.content⟩

variable (b : Block)

@[simp]
theorem bare_header : b.bare.header = b.header := rfl

@[simp]
theorem bare_body : b.bare.body = b.content := rfl

@[simp]
theorem name_bare : b.bare.name = b.name := rfl

@[simp]
theorem value_bare : b.bare.value = b.value := rfl

@[simp]
theorem isFlowList_bare : b.bare.isFlowList = b.isFlowList := rfl

@[simp]
theorem content_bare : b.bare.content = b.content := by simp [content]

@[simp]
theorem childIndent?_bare : b.bare.childIndent? = b.childIndent? := by simp [childIndent?]

@[simp]
theorem children_bare : b.bare.children = b.children := by simp [children]

theorem isContent_of_isItemAt {indent? : Option Nat} {l : Line} (h : isItemAt indent? l = true) :
    l.isContent = true := by
  simp only [isItemAt, Bool.and_eq_true] at h
  exact Line.isContent_of_isListItem h.1.1

@[simp]
theorem entries_bare : b.bare.entries = b.entries := by
  have hitems : b.content.filter (isItemAt b.childIndent?) =
      b.body.filter (isItemAt b.childIndent?) := by
    rw [content, List.filter_filter]
    refine List.filter_congr fun l _ => ?_
    cases h : isItemAt b.childIndent? l with
    | false => rfl
    | true => rw [isContent_of_isItemAt h, Bool.and_self]
  rw [entries, entries, isFlowList_bare, childIndent?_bare, value_bare, bare_header, bare_body,
    hitems]

/-! ## Cutting blocks -/

theorem owned_filter (header : Line) (following : List Line) :
    owned header (following.filter (·.isContent)) =
      (owned header following).filter (·.isContent) := by
  have hreach : (following.filter (·.isContent)).takeWhile (continuesFrom header) =
      (following.takeWhile (continuesFrom header)).filter (·.isContent) := by
    rw [List.takeWhile_filter]
    congr 2
    funext l
    cases h : l.isContent <;> simp [continuesFrom, h]
  unfold owned
  dsimp only
  rw [hreach, ← List.filter_reverse, List.dropWhile_filter, ← List.filter_reverse]
  simp only [Bool.or_self]

/-- Blocks whose headers are content and whose scopes do not depend on other lines. -/
theorem blocksAt_filter {opens : Line → Bool} {scope : Line → List Line → List Line}
    (hopens : ∀ l, opens l = true → l.isContent = true)
    (hscope : ∀ l rest, scope l (rest.filter (·.isContent)) =
      (scope l rest).filter (·.isContent)) (lines : List Line) :
    blocksAt opens scope (lines.filter (·.isContent)) = (blocksAt opens scope lines).map bare := by
  induction lines with
  | nil => rfl
  | cons l rest ih =>
    cases hl : opens l with
    | true =>
      rw [List.filter_cons_of_pos (hopens l hl), blocksAt, blocksAt, if_pos hl, if_pos hl, hscope,
        ih, List.map_cons]
      rfl
    | false =>
      have hskip (following : List Line) :
          blocksAt opens scope (l :: following) = blocksAt opens scope following := by
        rw [blocksAt, hl, if_neg (by simp)]
      rw [hskip, ← ih, List.filter_cons]
      split
      · exact hskip _
      · rfl

@[simp]
theorem childBlocks_bare : b.bare.childBlocks = b.childBlocks.map bare := by
  rw [childBlocks, childIndent?_bare]
  exact blocksAt_filter (fun _ => isContent_of_isKeyAt) owned_filter b.body

@[simp]
theorem child?_bare (key : Text) : b.bare.child? key = (b.child? key).map bare := by
  rw [child?, childBlocks_bare, List.find?_map]
  rfl

end Block

namespace Document

/-! ## Sections -/

/-- The lines of a document that carry something. -/
def bare (doc : Document) : Document := doc.filter (·.isContent)

variable {doc : Document} (kind : EntryKind)

theorem isContent_of_isSectionHeader {kind : EntryKind} {l : Line}
    (h : l.isSectionHeader kind.sectionName = true) : l.isContent = true :=
  Line.isContent_of_startsTopLevel (startsTopLevel_of_isSectionHeader h)

theorem IsSection.bare {kind : EntryKind} {before body after : List Line} {header : Line}
    (h : IsSection kind.sectionName before header body after) :
    IsSection kind.sectionName (Document.bare before) header (Document.bare body)
      (Document.bare after) where
  before l hl := h.before l (List.mem_filter.mp hl).1
  header := h.header
  body l hl := h.body l (List.mem_filter.mp hl).1
  after := by
    cases after with
    | nil => rfl
    | cons l rest =>
      have hl : l.startsTopLevel = true := by simpa using h.after
      rw [Document.bare, List.filter_cons_of_pos (Line.isContent_of_startsTopLevel hl)]
      simpa using hl

theorem sectionBody_bare :
    doc.bare.sectionBody kind.sectionName = Document.bare (doc.sectionBody kind.sectionName) := by
  cases hsection : doc.section? kind.sectionName with
  | some s =>
    obtain ⟨before, header, body, after, rfl, his, -⟩ := exists_isSection hsection
    have hbare : Document.bare (before ++ header :: (body ++ after)) =
        Document.bare before ++ header :: (Document.bare body ++ Document.bare after) := by
      rw [bare, List.filter_append, List.filter_cons_of_pos (isContent_of_isSectionHeader his.header),
        List.filter_append]
      rfl
    rw [hbare, his.bare.sectionBody, his.sectionBody]
  | none =>
    have hnone : doc.bare.section? kind.sectionName = none := by
      simp only [section?, findSection?, Option.map_eq_none_iff, List.findIdx?_eq_none_iff]
        at hsection ⊢
      exact fun l hl => hsection l (List.mem_filter.mp hl).1
    rw [sectionBody, hnone, sectionBody, hsection]
    rfl

theorem entryScope_filter (l : Line) (rest : List Line) :
    entryScope l (rest.filter (·.isContent)) = (entryScope l rest).filter (·.isContent) := by
  unfold entryScope
  rw [List.takeWhile_filter]
  congr 2
  funext m
  cases h : m.startsEntry with
  | false => simp
  | true => simp [Line.isContent_of_startsEntry h]

theorem blocks_bare : doc.bare.blocks kind = (doc.blocks kind).map Block.bare := by
  rw [blocks, sectionBody_bare, blocks]
  exact Block.blocksAt_filter
    (fun _ h => Line.isContent_of_startsEntry (EntryKind.startsEntry_of_isHeader h))
    entryScope_filter _

end Document

end ComposeLint
