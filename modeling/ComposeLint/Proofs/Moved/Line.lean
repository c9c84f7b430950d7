import ComposeLint.Proofs.Text.Characters
import ComposeLint.Proofs.Text.Ends
import ComposeLint.Section

/-! # Lines at another place

A line keeps its meaning when it gets another number and loses the blanks at its end. Whatever is
read off its trimmed text is the same for every line; the margin is the same for every line that
has text at all, and no reader looks at the margin of a blank one. -/

namespace ComposeLint.Line

/-- The line under another number, without the blanks at its end. -/
def moved (place : Int → Int) (l : Line) : Line :=
  { l with number := place l.number, raw := l.raw.trimEnd }

variable (place : Int → Int) (l : Line)

@[simp]
theorem moved_number : (l.moved place).number = place l.number := rfl

@[simp]
theorem moved_raw : (l.moved place).raw = l.raw.trimEnd := rfl

@[simp]
theorem moved_inScalar : (l.moved place).inScalar = l.inScalar := rfl

@[simp]
theorem moved_trimmed : (l.moved place).trimmed = l.trimmed := Text.trim_trimEnd l.raw

@[simp]
theorem moved_role : (l.moved place).role = l.role := by simp [role]

@[simp]
theorem moved_isBlank : (l.moved place).isBlank = l.isBlank := by simp [isBlank]

@[simp]
theorem moved_isListItem : (l.moved place).isListItem = l.isListItem := by simp [isListItem]

@[simp]
theorem moved_isContent : (l.moved place).isContent = l.isContent := by
  simp [isContent, isComment]

@[simp]
theorem moved_item : (l.moved place).item = l.item := by simp [item]

theorem moved_moved (place' : Int → Int) :
    (l.moved place).moved place' = l.moved fun n => place' (place n) := by
  simp only [moved, Text.trimEnd_trimEnd]

/-! ## What has text -/

variable {l}

theorem isBlank_iff : l.isBlank = true ↔ l.trimmed = [] := by
  unfold isBlank role Role.ofTrimmed
  split
  · next h => simp [h]
  · next h => simp [h]
  · next h => simp [h]
  · next hne _ _ =>
    have hrest : l.trimmed ≠ [] := hne
    split <;> simp [hrest]

theorem trimmed_ne_nil (h : l.isBlank = false) : l.raw.trim ≠ [] := by
  intro hnil
  rw [isBlank_iff.mpr hnil] at h
  cases h

theorem isBlank_of_isContent (h : l.isContent = true) : l.isBlank = false := by
  simp only [isContent, Bool.and_eq_true, Bool.not_eq_true'] at h
  exact h.1

theorem isContent_of_isListItem (h : l.isListItem = true) : l.isContent = true := by
  simp only [isListItem, beq_iff_eq] at h
  simp [isContent, isBlank, isComment, h]

theorem isContent_of_isMappingKey (h : l.isMappingKey = true) : l.isContent = true := by
  unfold isMappingKey key? at h
  split at h
  · next hr => simp [isContent, isBlank, isComment, hr]
  · cases h

theorem isContent_of_opensScalar (h : l.opensScalar = true) : l.isContent = true := by
  unfold opensScalar at h
  split at h
  · next hr => simp [isContent, isBlank, isComment, hr]
  · next hr => simp [isContent, isBlank, isComment, hr]
  · cases h

theorem moved_margin (h : l.isBlank = false) : (l.moved place).margin = l.margin :=
  Text.takeWhile_trimEnd (fun _ hc => Text.isBlank_of_isSpaceOrTab hc) (trimmed_ne_nil h)

/-! ## Where sections and entries start -/

theorem startsTopLevel_iff :
    l.startsTopLevel = true ↔ ∃ c, Text.isLetter c = true ∧ [c] <+: l.raw := by
  unfold startsTopLevel
  cases l.raw with
  | nil => simp
  | cons c rest => simp

theorem startsEntry_iff :
    l.startsEntry = true ↔ ∃ c, Text.isLetter c = true ∧ [' ', ' ', c] <+: l.raw := by
  unfold startsEntry
  constructor
  · intro h
    split at h
    · next c rest hr => exact ⟨c, h, rest, hr.symm⟩
    · cases h
  · rintro ⟨c, hc, rest, hr⟩
    rw [← hr]
    exact hc

/-- The indent is that part of the margin which comes before any tab. -/
theorem indent_eq_margin (l : Line) : l.indent = (l.margin.takeWhile (· == ' ')).length := by
  rw [indent, margin, List.takeWhile_takeWhile]
  congr 2
  funext c
  by_cases hc : c = ' ' <;> simp [Text.isSpaceOrTab, hc]

theorem indent_of_startsTopLevel (h : l.startsTopLevel = true) : l.indent = 0 := by
  obtain ⟨c, hc, rest, hraw⟩ := startsTopLevel_iff.mp h
  have hspace : c ≠ ' ' := Text.ne_of_isLetter hc (by decide)
  simp [indent, ← hraw, hspace]

/-- Where an entry starts, the margin is two spaces. -/
theorem margin_of_startsEntry (h : l.startsEntry = true) : l.margin = [' ', ' '] := by
  obtain ⟨c, hc, rest, hraw⟩ := startsEntry_iff.mp h
  have hspace : c ≠ ' ' := Text.ne_of_isLetter hc (by decide)
  have htab : c ≠ '\t' := Text.ne_of_isLetter hc (by decide)
  rw [margin, ← hraw]
  simp [Text.isSpaceOrTab, hspace, htab]

theorem hasTabMargin_of_startsEntry (h : l.startsEntry = true) : l.hasTabMargin = false := by
  rw [hasTabMargin, margin_of_startsEntry h]
  decide

theorem indent_of_startsEntry (h : l.startsEntry = true) : l.indent = 2 := by
  rw [indent_eq_margin, margin_of_startsEntry h]
  decide

variable (l)

@[simp]
theorem moved_startsTopLevel : (l.moved place).startsTopLevel = l.startsTopLevel := by
  rw [Bool.eq_iff_iff, startsTopLevel_iff, startsTopLevel_iff]
  exact exists_congr fun c => and_congr_right fun hc =>
    Text.prefix_trimEnd_iff (Text.isBlank_eq_false_of_isLetter hc) [] l.raw

@[simp]
theorem moved_startsEntry : (l.moved place).startsEntry = l.startsEntry := by
  rw [Bool.eq_iff_iff, startsEntry_iff, startsEntry_iff]
  exact exists_congr fun c => and_congr_right fun hc =>
    Text.prefix_trimEnd_iff (Text.isBlank_eq_false_of_isLetter hc) [' ', ' '] l.raw

@[simp]
theorem moved_isSectionHeader (name : Text) :
    (l.moved place).isSectionHeader name = l.isSectionHeader name := by
  simp only [isSectionHeader, moved_raw, moved_trimmed]
  rw [Text.startsWith_trimEnd (by decide)]

/-- A blank line names nothing. -/
theorem isHeader_of_isBlank (kind : EntryKind) {l : Line} (h : l.isBlank = true) :
    kind.isHeader l = false := by
  have hnil : l.raw.trimEnd = [] :=
    Text.trimEnd_eq_nil_iff.mpr (Text.trim_eq_nil_iff.mp (isBlank_iff.mp h))
  rw [EntryKind.isHeader, hnil]

@[simp]
theorem moved_isHeader (kind : EntryKind) : kind.isHeader (l.moved place) = kind.isHeader l := by
  simp [EntryKind.isHeader]

end ComposeLint.Line
