import ComposeLint.Proofs.Bare.Block
import ComposeLint.Proofs.Document.Replaced
import ComposeLint.Proofs.Quoting.Line

/-! # A word put between quotes

A line on which a word is put between quotes keeps its shape, whether the word is an item, a value, a
key or stands between brackets there. So the document is the same around it
(`Requoting.ofText_edited`). -/

namespace ComposeLint

/-- The line `m` is content of the kind that `l` is. -/
structure Line.SameKind (m l : Line) : Prop where
  content : m.isContent = true ∧ l.isContent = true
  isListItem : m.isListItem = l.isListItem
  isMappingKey : m.isMappingKey = l.isMappingKey
  opensScalar : m.opensScalar = l.opensScalar

namespace Line

variable {m l : Line}

theorem isListItem_of_role (h : l.role = .listItem) : l.isListItem = true := by simp [isListItem, h]

theorem key?_of_role {key value : Text} (h : l.role = .mappingKey key value) :
    l.key? = some key := by rw [key?, h]

theorem value_of_role {key value : Text} (h : l.role = .mappingKey key value) :
    l.value = value := by rw [Line.value, value?, h, Option.getD_some]

theorem isListItem_eq_false_of_role {key value : Text} (h : l.role = .mappingKey key value) :
    l.isListItem = false := by
  rw [isListItem, h]
  rfl

/-- Keys are of one kind, but for the scalars that they open. -/
theorem sameKind_of_keys {key key' value value' : Text} (hm : m.role = .mappingKey key' value')
    (hl : l.role = .mappingKey key value) (h : isScalarHeader value' = isScalarHeader value) :
    m.SameKind l := by
  have hkey {k : Line} {key value : Text} (hk : k.role = .mappingKey key value) :
      k.isMappingKey = true := by rw [isMappingKey, key?_of_role hk, Option.isSome_some]
  exact {
    content := ⟨isContent_of_isMappingKey (hkey hm), isContent_of_isMappingKey (hkey hl)⟩
    isListItem := (isListItem_eq_false_of_role hm).trans (isListItem_eq_false_of_role hl).symm
    isMappingKey := (hkey hm).trans (hkey hl).symm
    opensScalar := by simp only [opensScalar, hm, hl, h] }

/-- Items that are no mappings are of one kind, but for the scalars that they open. -/
theorem sameKind_of_items (hm : m.role = .listItem) (hl : l.role = .listItem)
    (hread : KeyValue.read? m.item = none ∧ KeyValue.read? l.item = none)
    (h : isScalarHeader m.item = isScalarHeader l.item) : m.SameKind l where
  content := ⟨isContent_of_isListItem (isListItem_of_role hm),
    isContent_of_isListItem (isListItem_of_role hl)⟩
  isListItem := (isListItem_of_role hm).trans (isListItem_of_role hl).symm
  isMappingKey := by simp only [isMappingKey, key?, hm, hl]
  opensScalar := by simp only [opensScalar, hm, hl, hread.1, hread.2, Option.bind_none, h]

namespace SameKind

variable (h : m.SameKind l)
include h

theorem isBlank : m.isBlank = l.isBlank := by
  rw [isBlank_of_isContent h.content.1, isBlank_of_isContent h.content.2]

/-- Below the header of an entry, lines of one kind with one margin have one shape. -/
theorem sameShape (hscalar : m.inScalar = l.inScalar) (hmargin : m.margin = l.margin)
    (htop : m.startsTopLevel = false ∧ l.startsTopLevel = false)
    (hentry : m.startsEntry = false ∧ l.startsEntry = false) : m.SameShape l := by
  have hsection {k : Line} (hk : k.startsTopLevel = false) (kind : EntryKind) :
      k.isSectionHeader kind.sectionName = false := Bool.eq_false_iff.mpr fun hheader => by
    rw [Document.startsTopLevel_of_isSectionHeader hheader] at hk
    cases hk
  have hheader {k : Line} (hk : k.startsEntry = false) (kind : EntryKind) :
      kind.isHeader k = false := Bool.eq_false_iff.mpr fun hheader => by
    rw [EntryKind.startsEntry_of_isHeader hheader] at hk
    cases hk
  exact {
    inScalar := hscalar
    isContent := h.content.1.trans h.content.2.symm
    isListItem := h.isListItem
    isMappingKey := h.isMappingKey
    margin := fun _ => hmargin
    startsTopLevel := htop.1.trans htop.2.symm
    startsEntry := hentry.1.trans hentry.2.symm
    isSectionHeader := fun kind => (hsection htop.1 kind).trans (hsection htop.2 kind).symm
    isHeader := fun kind => (hheader hentry.1 kind).trans (hheader hentry.2 kind).symm
    trimmed := fun hl => by
      rw [hentry.2] at hl
      cases hl }

end SameKind

end Line

/-- A word on a line of a document, and quotes to be put around it. -/
structure Requoting (text : Text) where
  above : List Text
  before : Text
  word : Text
  after : Text
  below : List Text
  quote : Quote
  lines_eq : text.splitOn '\n' = above ++ (before ++ (word ++ after)) :: below
  isWord : word.IsWord

namespace Requoting

variable {text : Text} (r : Requoting text)

/-- The line with something in place of the word. -/
def lineWith (t : Text) : Line := Line.ofText (1 + r.above.length) (r.before ++ (t ++ r.after))

def line : Line := r.lineWith r.word

def quoted : Line := r.lineWith (r.quote.around r.word)

/-- The document with quotes around the word. -/
def edited : Text :=
  Text.joinWith "\n" (r.above ++ (r.before ++ (r.quote.around r.word ++ r.after)) :: r.below)

/-! ## What the word is on its line -/

/-- The word is a whole item. -/
def IsItem : Prop := ∃ margin gap, r.before = margin ++ '-' :: gap ∧
  (∀ c ∈ margin, Text.isBlank c = true) ∧ (∀ c ∈ gap, Text.isBlank c = true) ∧
  r.after.remainder = []

/-- The word is a whole value. -/
def IsValue : Prop := (∃ key, Text.LeadsTo key r.before) ∧ r.after.remainder = []

/-- The word is a whole entry between the brackets of a value. -/
def IsPiece : Prop := ∃ key lead front pad back pad', Text.LeadsTo key lead ∧
  r.before = lead ++ '[' :: (front ++ pad) ∧ r.after.remainder = pad' ++ back ++ [']'] ∧
  Text.IsClosed ('[' :: (front ++ pad)) ∧
  (∀ c ∈ pad, Text.isBlank c = true) ∧ (∀ c ∈ pad', Text.isBlank c = true) ∧
  front.getLast?.all (· == ',') = true ∧ back.head?.all (· == ',') = true

/-- The word is a whole key. -/
def IsKey : Prop := (∀ c ∈ r.before, Text.isBlank c = true) ∧
  ∃ gap tail, r.after = gap ++ ':' :: tail ∧ ∀ c ∈ gap, Text.isBlank c = true

/-! ## The line -/

theorem newline_not_mem : '\n' ∉ r.before ∧ '\n' ∉ r.after := by
  have hmem : r.before ++ (r.word ++ r.after) ∈ text.splitOn '\n' := by simp [r.lines_eq]
  have hline := Document.not_mem_of_mem_splitOn text _ hmem
  exact ⟨fun h => hline (List.mem_append_left _ h),
    fun h => hline (List.mem_append_right _ (List.mem_append_right _ h))⟩

theorem spelling_word : Text.Spelling r.word r.word := .plain

theorem spelling_quoted : Text.Spelling r.word (r.quote.around r.word) := .quoted r.quote

section Spelling

variable {t : Text} (ht : Text.Spelling r.word t)
include ht

theorem raw_lineWith :
    (r.lineWith t).raw = r.before ++ (t ++ r.after.dropEndWhile (· == '\r')) := by
  obtain ⟨front, c, rfl⟩ : ∃ front c, t = front ++ [c] :=
    ⟨_, _, (List.dropLast_append_getLast (ht.ne_nil r.isWord)).symm⟩
  have hc : (c == '\r') = false := beq_eq_false_iff_ne.mpr fun heq => by
    have hblank := ht.isBlank_of_mem r.isWord (c := c) (by simp)
    rw [heq, Text.isBlank_carriageReturn] at hblank
    cases hblank
  have hassoc (tail : Text) : r.before ++ (front ++ [c] ++ tail) = (r.before ++ front) ++ c :: tail := by
    simp
  rw [lineWith, Line.ofText, hassoc, hassoc]
  exact Text.dropEndWhile_append_cons (p := (· == '\r')) hc _ _

omit ht in
theorem role_lineWith (t : Text) :
    (r.lineWith t).role = Role.ofTrimmed (Text.trim (r.before ++ (t ++ r.after))) := by
  rw [Line.role, lineWith, Line.trimmed_ofText]

/-- The margin ends before the word. -/
theorem margin_lineWith : (r.lineWith t).margin = r.before.takeWhile Text.isSpaceOrTab := by
  obtain ⟨c, rest, rfl, hc⟩ := ht.exists_cons r.isWord
  have hspace : Text.isSpaceOrTab c = false := Text.isSpaceOrTab_eq_false_of_isBlank
    (KeyValue.isBlank_eq_false_of_isKeyChar (Text.isKeyChar_of_isSpellingChar hc))
  rw [Line.margin, r.raw_lineWith ht]
  exact (Text.takeWhile_append_of_head? (by simpa using hspace) r.before).1

end Spelling

theorem margin_quoted : r.quoted.margin = r.line.margin := by
  rw [quoted, r.margin_lineWith r.spelling_quoted, line, r.margin_lineWith r.spelling_word]

theorem raw_line : r.line.raw = r.before ++ (r.word ++ r.after.dropEndWhile (· == '\r')) :=
  r.raw_lineWith r.spelling_word

theorem raw_quoted :
    r.quoted.raw = r.before ++ r.quote.char :: (r.word ++ ([r.quote.char] ++
      r.after.dropEndWhile (· == '\r'))) := by
  rw [quoted, r.raw_lineWith r.spelling_quoted, Quote.around, List.cons_append, List.append_assoc]

/-- A start without quotes lies in front of the quoted word. -/
theorem isPrefix_line {start : Text} (hstart : ∀ c ∈ start, Text.isQuote c = false)
    (h : start <+: r.quoted.raw) : start <+: r.line.raw := by
  rw [raw_quoted] at h
  rw [raw_line]
  rcases List.prefix_or_prefix_of_prefix h (List.prefix_append _ _) with hbefore | ⟨rest, rfl⟩
  · exact hbefore.trans (List.prefix_append _ _)
  · cases rest with
    | nil => simp
    | cons c rest =>
      obtain rfl := (List.cons_prefix_cons.mp ((List.prefix_append_right_inj _).mp h)).1
      have hquote := hstart r.quote.char (by simp)
      rw [r.quote.isQuote_char] at hquote
      cases hquote

theorem startsTopLevel_quoted (h : r.line.startsTopLevel = false) :
    r.quoted.startsTopLevel = false := Bool.eq_false_iff.mpr fun hquoted => by
  obtain ⟨c, hc, hstart⟩ := Line.startsTopLevel_iff.mp hquoted
  have hplain : ∀ d ∈ [c], Text.isQuote d = false := by
    simpa [Text.isQuote] using ⟨Text.ne_of_isLetter hc (by decide), Text.ne_of_isLetter hc (by decide)⟩
  rw [Line.startsTopLevel_iff.mpr ⟨c, hc, r.isPrefix_line hplain hstart⟩] at h
  cases h

theorem startsEntry_quoted (h : r.line.startsEntry = false) : r.quoted.startsEntry = false :=
  Bool.eq_false_iff.mpr fun hquoted => by
    obtain ⟨c, hc, hstart⟩ := Line.startsEntry_iff.mp hquoted
    have hplain : ∀ d ∈ [' ', ' ', c], Text.isQuote d = false := by
      simpa [Text.isQuote] using
        ⟨Text.ne_of_isLetter hc (by decide), Text.ne_of_isLetter hc (by decide)⟩
    rw [Line.startsEntry_iff.mpr ⟨c, hc, r.isPrefix_line hplain hstart⟩] at h
    cases h

/-! ## Roles -/

/-- An item is the spelling of the word. -/
theorem IsItem.item_eq (h : r.IsItem) {t : Text} (ht : Text.Spelling r.word t) :
    (r.lineWith t).role = .listItem ∧ (r.lineWith t).item = t := by
  obtain ⟨margin, gap, hbefore, hmargin, hgap, hrest⟩ := h
  obtain ⟨rest, htrim, hitem⟩ := ht.item_eq r.isWord hmargin hgap hrest
  have hrole : (r.lineWith t).role = .listItem := by
    rw [r.role_lineWith, hbefore, htrim]
    rfl
  refine ⟨hrole, ?_⟩
  rw [Line.item, if_pos (Line.isListItem_of_role hrole), lineWith, Line.trimmed_ofText, hbefore, htrim]
  exact hitem

theorem IsValue.exists_role (h : r.IsValue) : ∃ key, ∀ t, Text.Spelling r.word t →
    (r.lineWith t).role = .mappingKey key t := by
  obtain ⟨⟨key, hlead⟩, hrest⟩ := h
  refine ⟨key, fun t ht => ?_⟩
  rw [r.role_lineWith, ht.role_value r.isWord hlead hrest r.newline_not_mem.2]

theorem IsPiece.exists_role (h : r.IsPiece) : ∃ key front pad back pad',
    (∀ t, Text.Spelling r.word t → (r.lineWith t).role =
      .mappingKey key ('[' :: (front ++ pad ++ (t ++ (pad' ++ back)) ++ [']']))) ∧
    (∀ c ∈ pad, Text.isBlank c = true) ∧ (∀ c ∈ pad', Text.isBlank c = true) ∧
    front.getLast?.all (· == ',') = true ∧ back.head?.all (· == ',') = true := by
  obtain ⟨key, lead, front, pad, back, pad', hlead, hbefore, hrest, hclosed, hpads⟩ := h
  refine ⟨key, front, pad, back, pad', fun t ht => ?_, hpads⟩
  have hnl : '\n' ∉ front ++ pad := fun hmem =>
    r.newline_not_mem.1 (hbefore ▸ List.mem_append_right lead (List.mem_cons_of_mem _ hmem))
  rw [r.role_lineWith, hbefore]
  exact ht.role_brackets r.isWord hlead hclosed hrest ⟨hnl, r.newline_not_mem.2⟩

/-- Where the line is a key at all, the spelling of the word is the key. -/
theorem IsKey.exists_role (h : r.IsKey) (hkey : r.line.isMappingKey = true) :
    ∃ value, ∀ t, Text.Spelling r.word t → (r.lineWith t).role = .mappingKey t value := by
  obtain ⟨hmargin, gap, tail, hafter, hgap⟩ := h
  have hrole {t : Text} (ht : Text.Spelling r.word t) :
      (r.lineWith t).role = (KeyValue.readTail? (Text.trimEnd tail)).elim .unknown
        fun value? => .mappingKey t (Text.trim (Text.withoutComment (value?.getD []))) := by
    rw [r.role_lineWith, hafter, ht.role_key r.isWord hmargin hgap]
  cases htail : KeyValue.readTail? (Text.trimEnd tail) with
  | none =>
    rw [Line.isMappingKey, Line.key?, line, hrole r.spelling_word, htail] at hkey
    cases hkey
  | some value? => exact ⟨_, fun t ht => by rw [hrole ht, htail]; rfl⟩

/-! ## Kinds -/

theorem IsItem.sameKind (h : r.IsItem) : r.quoted.SameKind r.line := by
  obtain ⟨hrole, hitem⟩ := h.item_eq r r.spelling_word
  obtain ⟨hrole', hitem'⟩ := h.item_eq r r.spelling_quoted
  have hread {t : Text} (ht : Text.Spelling r.word t) : KeyValue.read? t = none :=
    KeyValue.read?_eq_none fun c hc => ht.isKeyChar_of_mem r.isWord hc
  refine Line.sameKind_of_items hrole' hrole ⟨?_, ?_⟩ ?_
  · exact hitem' ▸ hread r.spelling_quoted
  · exact hitem ▸ hread r.spelling_word
  · rw [quoted, hitem', line, hitem, r.spelling_quoted.isScalarHeader_eq_false r.isWord,
      r.spelling_word.isScalarHeader_eq_false r.isWord]

theorem IsValue.sameKind (h : r.IsValue) : r.quoted.SameKind r.line := by
  obtain ⟨key, hrole⟩ := h.exists_role
  refine Line.sameKind_of_keys (hrole _ r.spelling_quoted) (hrole _ r.spelling_word) ?_
  rw [r.spelling_quoted.isScalarHeader_eq_false r.isWord,
    r.spelling_word.isScalarHeader_eq_false r.isWord]

theorem IsPiece.sameKind (h : r.IsPiece) : r.quoted.SameKind r.line := by
  obtain ⟨key, front, pad, back, pad', hrole, -⟩ := h.exists_role
  exact Line.sameKind_of_keys (hrole _ r.spelling_quoted) (hrole _ r.spelling_word) rfl

theorem IsKey.sameKind (h : r.IsKey) (hkey : r.line.isMappingKey = true) :
    r.quoted.SameKind r.line := by
  obtain ⟨value, hrole⟩ := h.exists_role r hkey
  exact Line.sameKind_of_keys (hrole _ r.spelling_quoted) (hrole _ r.spelling_word) rfl

/-! ## The document -/

/-- The line with quotes around its word, and all other lines as they are. -/
def change : Line → Line := Line.replaced r.line r.quoted

theorem change_line : r.change r.line = r.quoted := Line.replaced_self _ _

theorem change_of_ne {k : Line} (h : k ≠ r.line) : r.change k = k := Line.replaced_of_ne h

@[simp]
theorem number_change (k : Line) : (r.change k).number = k.number :=
  Line.read_replaced fun _ => rfl

section Document

variable {r} (hkind : r.quoted.SameKind r.line)
include hkind

theorem sameShape_change (htop : r.line.startsTopLevel = false) (hentry : r.line.startsEntry = false)
    (k : Line) : (r.change k).SameShape k := by
  rw [change, Line.replaced]
  split
  · next hk =>
    rw [hk]
    exact hkind.sameShape rfl r.margin_quoted ⟨r.startsTopLevel_quoted htop, htop⟩
      ⟨r.startsEntry_quoted hentry, hentry⟩
  · exact Line.SameShape.refl k

/-- The document is the same but for the line of the word. -/
theorem ofText_edited (hmem : r.line ∈ Document.ofText text) :
    Document.ofText r.edited = (Document.ofText text).map r.change := by
  obtain ⟨i, hi⟩ := List.getElem?_of_mem hmem
  have hnumber : (1 + r.above.length : Int) = i + 1 := Document.number_of_getElem? hi
  obtain rfl : i = r.above.length := by omega
  have hnl : '\n' ∉ r.before ++ (r.quote.around r.word ++ r.after) := by
    have hquoted := r.spelling_quoted.not_mem r.isWord (c := '\n') (by decide)
    simp [r.newline_not_mem, hquoted]
  have hindent : r.quoted.indent = r.line.indent := by
    rw [Line.indent_eq_margin, r.margin_quoted, ← Line.indent_eq_margin]
  exact Document.ofText_replaced r.lines_eq hnl hi rfl hkind.isBlank hindent hkind.opensScalar

end Document

end Requoting

end ComposeLint
