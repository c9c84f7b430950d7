import ComposeLint.Proofs.Moved.Line

/-! # Lines that read alike

Apart from its number and its mark a line is read by its role, by its item and, if it shows anything,
by its margin; by its raw text only where sections and entries start. Two lines that agree in this
are alike, whatever else is written on them, and every reader of single lines that asks for no more
says the same of both. -/

namespace ComposeLint

/-- The line `m` reads like `l`, at another place. Where an entry starts, its name is read off the
text. -/
structure Line.Alike (place : Int → Int) (m l : Line) : Prop where
  number : m.number = place l.number
  inScalar : m.inScalar = l.inScalar
  role : m.role = l.role
  item : m.item = l.item
  margin : l.isBlank = false → m.margin = l.margin
  startsTopLevel : m.startsTopLevel = l.startsTopLevel
  startsEntry : m.startsEntry = l.startsEntry
  isSectionHeader (kind : EntryKind) :
    m.isSectionHeader kind.sectionName = l.isSectionHeader kind.sectionName
  isHeader (kind : EntryKind) : kind.isHeader m = kind.isHeader l
  trimmed : l.startsEntry = true → m.trimmed = l.trimmed

namespace Line.Alike

theorem refl (l : Line) : l.Alike id l where
  number := rfl
  inScalar := rfl
  role := rfl
  item := rfl
  margin _ := rfl
  startsTopLevel := rfl
  startsEntry := rfl
  isSectionHeader _ := rfl
  isHeader _ := rfl
  trimmed _ := rfl

variable {place : Int → Int} {m l : Line} (h : m.Alike place l)
include h

theorem isBlank : m.isBlank = l.isBlank := by rw [Line.isBlank, h.role, Line.isBlank]

theorem isComment : m.isComment = l.isComment := by rw [Line.isComment, h.role, Line.isComment]

theorem isListItem : m.isListItem = l.isListItem := by
  rw [Line.isListItem, h.role, Line.isListItem]

theorem isContent : m.isContent = l.isContent := by
  rw [Line.isContent, h.isBlank, h.isComment, Line.isContent]

theorem key? : m.key? = l.key? := by rw [Line.key?, h.role, Line.key?]

theorem value? : m.value? = l.value? := by rw [Line.value?, h.role, Line.value?]

theorem value : m.value = l.value := by rw [Line.value, h.value?, Line.value]

theorem isMappingKey : m.isMappingKey = l.isMappingKey := by
  rw [Line.isMappingKey, h.key?, Line.isMappingKey]

theorem opensScalar : m.opensScalar = l.opensScalar := by
  rw [Line.opensScalar, h.role, h.item, Line.opensScalar]

theorem indent (hb : l.isBlank = false) : m.indent = l.indent := by
  rw [indent_eq_margin, h.margin hb, ← indent_eq_margin]

theorem hasTabMargin (hb : l.isBlank = false) : m.hasTabMargin = l.hasTabMargin := by
  rw [Line.hasTabMargin, h.margin hb, Line.hasTabMargin]

theorem hasMixedMargin (hb : l.isBlank = false) : m.hasMixedMargin = l.hasMixedMargin := by
  rw [Line.hasMixedMargin, h.hasTabMargin hb, h.margin hb, Line.hasMixedMargin]

/-- Whether a line is indented at all shows in its margin. -/
theorem head?_any_isSpaceOrTab (hb : l.isBlank = false) :
    m.raw.head?.any Text.isSpaceOrTab = l.raw.head?.any Text.isSpaceOrTab := by
  have hmargin (k : Line) : k.raw.head?.any Text.isSpaceOrTab = !k.margin.isEmpty := by
    rw [Line.margin]
    cases k.raw with
    | nil => rfl
    | cons c rest => cases hc : Text.isSpaceOrTab c <;> simp [hc]
  rw [hmargin, h.margin hb, ← hmargin]

end Line.Alike

end ComposeLint
