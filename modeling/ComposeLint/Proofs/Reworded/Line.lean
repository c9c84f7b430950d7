import ComposeLint.Proofs.Alike.Line
import ComposeLint.Proofs.Document.Lines

/-! # Scalar text in other words

A rewording gives lines of block scalars another text behind the same margin. Such a line may turn
into anything, a header or a comment among others; it keeps its number, its mark and its margin, and
it stays a line that shows something. -/

namespace ComposeLint

/-- A text that can stand behind a margin: it shows something, stays on its line, and is told from
the margin by its first character. -/
structure LineText where
  text : Text
  not_vacant : text.isVacant = false
  newline_not_mem : '\n' ∉ text
  head_not_margin : text.head?.any Text.isSpaceOrTab = false

/-- New texts for some lines, chosen by all that is known of a line. -/
abbrev Rewording := Line → Option LineText

namespace Rewording

/-- The new text of a line, if it is scalar text that shows something. -/
def newText? (r : Rewording) (l : Line) : Option LineText :=
  if l.inScalar && !l.isBlank then r l else none

variable {r : Rewording} {l : Line} {t : LineText}

theorem inScalar_of_newText? (h : r.newText? l = some t) : l.inScalar = true := by
  grind [newText?]

theorem isBlank_of_newText? (h : r.newText? l = some t) : l.isBlank = false := by
  grind [newText?]

/-- The text of a line after the rewording: the new one follows the spaces and tabs that the old one
started with. -/
def textOf (r : Rewording) (l : Line) (t : Text) : Text :=
  match r.newText? l with
  | some new => t.takeWhile Text.isSpaceOrTab ++ new.text
  | none => t

end Rewording

/-! ## New texts -/

namespace Text

theorem exists_mem_of_not_vacant {t : Text} (h : t.isVacant = false) :
    ∃ c ∈ t, isBlank c = false := by
  simpa [isVacant] using h

/-- What stands in front of a character that stays is kept as well. -/
theorem dropEndWhile_append_of_mem {p : Char → Bool} {t : Text} (h : ∃ c ∈ t, p c = false)
    (start : Text) : dropEndWhile p (start ++ t) = start ++ dropEndWhile p t := by
  obtain ⟨c, hc, hp⟩ := h
  obtain ⟨a, b, rfl⟩ := List.append_of_mem hc
  rw [← List.append_assoc, dropEndWhile_append_cons hp, dropEndWhile_append_cons hp,
    List.append_assoc]

end Text

namespace LineText

variable (t : LineText)

/-- The text without the carriage returns that belong to the line break. -/
def kept : Text := t.text.dropEndWhile (· == '\r')

theorem exists_mem_kept : ∃ c ∈ t.kept, Text.isBlank c = false := by
  obtain ⟨c, hc, hblank⟩ := Text.exists_mem_of_not_vacant t.not_vacant
  obtain ⟨tail, htail, hreturns⟩ := Text.exists_dropEndWhile_append (· == '\r') t.text
  rw [htail, List.mem_append] at hc
  rcases hc with hc | hc
  · exact ⟨c, hc, hblank⟩
  · rw [show c = '\r' by simpa using hreturns c hc, Text.isBlank_carriageReturn] at hblank
    cases hblank

theorem append_dropEndWhile (start : Text) :
    (start ++ t.text).dropEndWhile (· == '\r') = start ++ t.kept := by
  obtain ⟨c, hc, hblank⟩ := Text.exists_mem_of_not_vacant t.not_vacant
  refine Text.dropEndWhile_append_of_mem ⟨c, hc, ?_⟩ start
  rw [beq_eq_false_iff_ne]
  rintro rfl
  rw [Text.isBlank_carriageReturn] at hblank
  cases hblank

/-- Nothing of the text goes to the margin in front of it. -/
theorem takeWhile_kept : t.kept.takeWhile Text.isSpaceOrTab = [] := by
  obtain ⟨c, hc, -⟩ := t.exists_mem_kept
  obtain ⟨tail, htail, -⟩ := Text.exists_dropEndWhile_append (· == '\r') t.text
  obtain ⟨d, rest, hkept⟩ := List.exists_cons_of_ne_nil (List.ne_nil_of_mem hc)
  have hhead := t.head_not_margin
  rw [htail, ← kept, hkept] at hhead
  rw [hkept, List.takeWhile_cons_of_neg (by simpa using hhead)]

end LineText

/-! ## Lines -/

namespace Line

/-- The line with another text behind its margin. -/
def withText (l : Line) (t : LineText) : Line := { l with raw := l.margin ++ t.kept }

variable (l : Line) (t : LineText)

theorem margin_withText : (l.withText t).margin = l.margin := by
  have hmargin : ∀ c ∈ l.margin, Text.isSpaceOrTab c = true := fun c hc => List.mem_takeWhile_imp hc
  rw [withText, margin, List.takeWhile_append_of_pos hmargin, t.takeWhile_kept, List.append_nil]

theorem isBlank_withText : (l.withText t).isBlank = false := by
  rw [Bool.eq_false_iff, ne_eq, isBlank_iff, trimmed, Text.trim_eq_nil_iff]
  intro hall
  obtain ⟨c, hc, hblank⟩ := t.exists_mem_kept
  rw [hall c (List.mem_append_right _ hc)] at hblank
  cases hblank

/-- The line as a rewording leaves it. -/
def reworded (r : Rewording) (l : Line) : Line :=
  match r.newText? l with
  | some t => l.withText t
  | none => l

variable {l} {r : Rewording}

theorem reworded_of_some {t : LineText} (h : r.newText? l = some t) :
    l.reworded r = l.withText t := by
  rw [reworded, h]

theorem reworded_of_none (h : r.newText? l = none) : l.reworded r = l := by rw [reworded, h]

/-- Lines outside of scalars are left as they are. -/
theorem reworded_of_free (h : l.inScalar = false) : l.reworded r = l :=
  reworded_of_none (by simp [Rewording.newText?, h])

variable (l r)

@[simp]
theorem reworded_number : (l.reworded r).number = l.number := by
  unfold reworded
  split <;> rfl

@[simp]
theorem reworded_inScalar : (l.reworded r).inScalar = l.inScalar := by
  unfold reworded
  split <;> rfl

@[simp]
theorem reworded_margin : (l.reworded r).margin = l.margin := by
  unfold reworded
  split
  · exact margin_withText l _
  · rfl

@[simp]
theorem reworded_indent : (l.reworded r).indent = l.indent := by
  rw [indent_eq_margin, reworded_margin, ← indent_eq_margin]

@[simp]
theorem reworded_hasTabMargin : (l.reworded r).hasTabMargin = l.hasTabMargin := by
  simp [hasTabMargin]

@[simp]
theorem reworded_hasMixedMargin : (l.reworded r).hasMixedMargin = l.hasMixedMargin := by
  simp [hasMixedMargin]

@[simp]
theorem reworded_isBlank : (l.reworded r).isBlank = l.isBlank := by
  cases h : r.newText? l with
  | none => rw [reworded_of_none h]
  | some t =>
    rw [reworded_of_some h, isBlank_withText, Rewording.isBlank_of_newText? h]

variable {r}

/-- Lines that are found by a test which no rewording reaches. -/
theorem filter_reworded {p : Line → Bool} (hp : ∀ l, p (l.reworded r) = p l)
    (hfixed : ∀ l, p l = true → l.reworded r = l) (lines : List Line) :
    (lines.map (reworded r)).filter p = lines.filter p := by
  rw [List.filter_map]
  simp only [Function.comp_def, hp]
  exact (List.map_congr_left fun l hl => hfixed l (List.mem_filter.mp hl).2).trans (List.map_id _)

end Line

end ComposeLint
