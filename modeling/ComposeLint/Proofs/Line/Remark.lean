import ComposeLint.Proofs.Line.Reading

/-! # Texts before a remark

A remark is a comment with the blanks before it. The comment scan stops where the remark begins if
no quote is open there, and the key reader takes the remark for a part of the value, from which the
comment is cut later on. Only a bare key has no value that could take it
(`KeyValue.read?_append_remark`). -/

namespace ComposeLint

namespace Text

/-! ## Remarks -/

/-- Blanks of which the last is a space, then a number sign and any text. -/
def IsRemark (w : Text) : Prop :=
  ∃ gap rest, w = gap ++ ' ' :: '#' :: rest ∧ ∀ c ∈ gap, isBlank c = true

namespace IsRemark

variable {w : Text} (h : w.IsRemark)
include h

theorem head?_any_isBlank : w.head?.any isBlank = true := by
  obtain ⟨gap, rest, rfl, hgap⟩ := h
  cases gap with
  | nil => rfl
  | cons c gap => exact hgap c List.mem_cons_self

theorem head?_trimStart : w.trimStart.head? = some '#' := by
  obtain ⟨gap, rest, rfl, hgap⟩ := h
  rw [trimStart, List.dropWhile_append_of_pos hgap]
  rfl

theorem sign_mem : '#' ∈ w := by
  obtain ⟨gap, rest, rfl, -⟩ := h
  simp

/-- Nothing of a remark is left before its comment but blanks. -/
theorem isBlank_of_mem_beforeComment (previous : Option Char) {c : Char}
    (hc : c ∈ beforeComment none previous w) : isBlank c = true := by
  obtain ⟨gap, rest, rfl, hgap⟩ := h
  have hplain : ∀ d ∈ gap ++ [' '], isBlank d = true := by
    intro d hd
    rcases List.mem_append.mp hd with hd | hd
    · exact hgap d hd
    · rw [List.mem_singleton.mp hd]
      decide
  have hsign : beforeComment none (some ' ') ('#' :: rest) = [] := rfl
  rw [List.append_cons, beforeComment_append fun d hd => isPlain_of_isBlank (hplain d hd),
    List.getLast?_concat, Option.some_or, hsign, List.append_nil] at hc
  exact hplain c hc

/-- A value that is no more than a remark is empty. -/
theorem withoutComment_dropWhile (hspace : w.head?.any isSpaceOrTab = true) :
    withoutComment (w.dropWhile isSpaceOrTab) = [] := by
  rw [withoutComment, trimEnd_eq_nil_iff]
  intro c hc
  refine h.isBlank_of_mem_beforeComment none ?_
  rw [beforeComment_skip_space hspace]
  exact List.mem_append_right _ hc

end IsRemark

/-- A remark ends where a comment does, if no quote is open. -/
theorem trimEnd_beforeComment_append {a w : Text} (ha : ∀ c ∈ a, isQuote c = false)
    (hw : w.IsRemark) : ∀ previous, (beforeComment none previous (a ++ w)).trimEnd =
      (beforeComment none previous a).trimEnd := by
  induction a with
  | nil =>
    intro previous
    exact trimEnd_eq_nil_iff.mpr fun c => hw.isBlank_of_mem_beforeComment previous
  | cons c rest ih =>
    intro previous
    rw [List.cons_append, beforeComment, beforeComment, ha c List.mem_cons_self, Bool.false_and]
    simp only [Bool.false_eq_true, if_false]
    split
    · rfl
    · rw [← trimEnd_cons_trimEnd, ih fun d hd => ha d (List.mem_cons_of_mem c hd),
        trimEnd_cons_trimEnd]

theorem withoutComment_append {a w : Text} (ha : ∀ c ∈ a, isQuote c = false) (hw : w.IsRemark) :
    (a ++ w).withoutComment = a.withoutComment := trimEnd_beforeComment_append ha hw none

theorem openQuoteFrom_eq_none {t : Text} (h : ∀ c ∈ t, isQuote c = false) :
    ∀ previous, openQuoteFrom none previous t = none := by
  induction t with
  | nil => exact fun _ => rfl
  | cons c rest ih =>
    intro previous
    have hquote : Quote.ofChar? c = none := by
      have hc := h c List.mem_cons_self
      simp only [isQuote, Bool.or_eq_false_iff] at hc
      simp [Quote.ofChar?, hc.1, hc.2]
    rw [openQuoteFrom, hquote]
    split
    · rfl
    · exact ih (fun d hd => h d (List.mem_cons_of_mem c hd)) (some c)

theorem unquote_eq_trim {t : Text} (h : ∀ c ∈ t, isQuote c = false) : t.unquote = t.trim := by
  unfold unquote
  dsimp only
  split
  · next c d rest htrim =>
    have hmem : c ∈ t := (List.dropWhile_sublist _).mem
      (mem_of_mem_dropEndWhile (htrim ▸ List.mem_cons_self : c ∈ t.trim))
    rw [h c hmem, Bool.false_and, if_neg Bool.false_ne_true]
  · rfl

theorem openQuote?_eq_none {t : Text} (h : ∀ c ∈ t, isQuote c = false) : t.openQuote? = none :=
  openQuoteFrom_eq_none h none

end Text

/-! ## Readers of a text before a remark -/

namespace KeyValue

theorem read?_of_no_key {t : Text} (h : t.takeWhile isKeyChar = []) : read? t = none := by
  simp [read?, h]

theorem sublist_of_singleLine? {t value : Text} (h : Text.singleLine? t = some value) :
    value.Sublist t := by
  have hbody : some (t.takeWhile (· != '\n')) = some value → value.Sublist t := by
    rintro h
    obtain rfl := Option.some.inj h
    exact List.takeWhile_sublist _
  unfold Text.singleLine? at h
  dsimp only at h
  split at h
  · exact hbody h
  · exact hbody h
  · cases h

/-- A value is a part of its text. -/
theorem sublist_of_read? {t key value : Text} (h : read? t = some ⟨key, some value⟩) :
    value.Sublist t := by
  unfold read? at h
  dsimp only at h
  split at h
  · cases h
  split at h
  · next tail htail =>
    split at h
    · obtain ⟨found, hfound, heq⟩ := Option.map_eq_some_iff.mp h
      obtain rfl := Option.some.inj (KeyValue.mk.inj heq).2
      have hafter : (Text.trimStart (t.dropWhile isKeyChar)).Sublist t :=
        (List.dropWhile_sublist _).trans (List.dropWhile_sublist _)
      rw [htail] at hafter
      have htailsub := (List.sublist_cons_self ':' tail).trans hafter
      exact ((sublist_of_singleLine? hfound).trans (List.dropWhile_sublist _)).trans htailsub
    · split at h
      · cases h
      · cases h
  · cases h

/-- The value that a text after the colon gives, if it may stand there. -/
def afterColon? (tail : Text) : Option (Option Text) :=
  if tail.head?.any Text.isSpaceOrTab then
    (Text.singleLine? (tail.dropWhile Text.isSpaceOrTab)).map some
  else if tail.isEmpty || tail == ['\n'] then some none
  else none

theorem read?_eq_afterColon? {t tail : Text} (hne : t.takeWhile isKeyChar ≠ [])
    (h : Text.trimStart (t.dropWhile isKeyChar) = ':' :: tail) :
    read? t = (afterColon? tail).map fun value? => ⟨t.takeWhile isKeyChar, value?⟩ := by
  rw [read?_of_colon hne h, afterColon?]
  split
  · rw [Option.map_map]
    rfl
  · split <;> rfl

/-- The value with a remark behind it. A bare key takes the remark for its value where a space or
tab follows the colon; another blank there makes it no key. -/
def valueWith? (w : Text) : Option Text → Option Text
  | some value => some (value ++ w)
  | none => if w.head?.any Text.isSpaceOrTab then some (w.dropWhile Text.isSpaceOrTab) else none

/-- What stands after the colon is an end of the text. -/
theorem exists_append_of_colon {t tail : Text}
    (h : Text.trimStart (t.dropWhile isKeyChar) = ':' :: tail) : ∃ before, t = before ++ tail := by
  refine ⟨t.takeWhile isKeyChar ++ ((t.dropWhile isKeyChar).takeWhile Text.isBlank ++ [':']), ?_⟩
  rw [Text.trimStart] at h
  conv_lhs => rw [← List.takeWhile_append_dropWhile (p := isKeyChar) (l := t),
    ← List.takeWhile_append_dropWhile (p := Text.isBlank) (l := t.dropWhile isKeyChar), h]
  simp

theorem sign_mem_of_valueWith? {w value : Text} {value? : Option Text} (hw : w.IsRemark)
    (h : valueWith? w value? = some value) : '#' ∈ value := by
  cases value? with
  | none =>
    simp only [valueWith?] at h
    split at h
    · obtain rfl := Option.some.inj h
      have hmem := hw.sign_mem
      rw [← List.takeWhile_append_dropWhile (p := Text.isSpaceOrTab) (l := w),
        List.mem_append] at hmem
      exact hmem.resolve_left fun hspace => absurd (List.mem_takeWhile_imp hspace) (by decide)
    · cases h
  | some before =>
    obtain rfl := Option.some.inj h
    exact List.mem_append_right _ hw.sign_mem

section Remark

variable {a w : Text} (hw : w.IsRemark)
include hw

theorem afterColon?_append (hnl : '\n' ∉ a ++ w) (hend : a.trimEnd = a) :
    afterColon? (a ++ w) = (afterColon? a).bind fun value? => (valueWith? w value?).map some := by
  have hlong : ((a ++ w).isEmpty || a ++ w == ['\n']) = false := by
    have hmem : '#' ∈ a ++ w := List.mem_append_right _ hw.sign_mem
    simp only [Bool.or_eq_false_iff, List.isEmpty_eq_false_iff, beq_eq_false_iff_ne]
    exact ⟨List.ne_nil_of_mem hmem, fun heq => hnl (heq ▸ List.mem_singleton_self _)⟩
  have hvalue {t : Text} (ht : t.Sublist (a ++ w)) : Text.singleLine? t = some t :=
    singleLine?_eq_some fun h => hnl (ht.mem h)
  rw [afterColon?, hlong]
  cases a with
  | nil =>
    rw [List.nil_append] at *
    have hnone : afterColon? [] = some none := rfl
    rw [hnone, hvalue (List.dropWhile_sublist _), Option.bind_some, valueWith?]
    split <;> rfl
  | cons d rest =>
    obtain ⟨c, hc, hblank⟩ := Text.exists_mem_of_trimEnd_eq_self (List.cons_ne_nil d rest) hend
    have hdrop := (Text.takeWhile_append_of_exists
      ⟨c, hc, Text.isSpaceOrTab_eq_false_of_isBlank hblank⟩ w).2
    have hshort : ¬ (d = '\n' ∧ rest = []) := fun h => hnl (by simp [h.1])
    rw [hvalue (List.dropWhile_sublist _), hdrop, List.cons_append, List.head?_cons, afterColon?,
      List.head?_cons, hvalue ((List.dropWhile_sublist _).trans (List.sublist_append_left _ _))]
    split
    · rfl
    · simp [hshort]

/-- A remark has no part in the key, and stands behind what follows the key. -/
theorem takeWhile_append_remark (a : Text) : (a ++ w).takeWhile isKeyChar = a.takeWhile isKeyChar ∧
    (a ++ w).dropWhile isKeyChar = a.dropWhile isKeyChar ++ w := by
  refine Text.takeWhile_append_of_head? ?_ a
  have hblank := hw.head?_any_isBlank
  cases w with
  | nil => rfl
  | cons c w =>
    rw [List.head?_cons, Option.any_some] at hblank ⊢
    rw [Bool.eq_false_iff]
    intro hc
    rw [isBlank_eq_false_of_isKeyChar hc] at hblank
    cases hblank

omit hw in
theorem trimStart_append_of_colon {rest tail : Text} (h : rest.trimStart = ':' :: tail) :
    (rest ++ w).trimStart = ':' :: (tail ++ w) := by
  have hmem : ':' ∈ rest := (List.dropWhile_sublist _).mem (h ▸ List.mem_cons_self)
  rw [Text.trimStart_append ⟨':', hmem, by decide⟩, h, List.cons_append]

/-- No remark starts with a colon. -/
theorem head?_trimStart_append_remark {rest : Text} (h : rest.trimStart.head? ≠ some ':') :
    (rest ++ w).trimStart.head? ≠ some ':' := by
  by_cases hblank : ∀ c ∈ rest, Text.isBlank c = true
  · rw [Text.trimStart, List.dropWhile_append_of_pos hblank, ← Text.trimStart, hw.head?_trimStart]
    decide
  · have hne : rest.trimStart ≠ [] := fun hnil => hblank (List.dropWhile_eq_nil_iff.mp hnil)
    rw [Text.trimStart_append (by simpa using hblank), List.head?_append_of_ne_nil _ hne]
    exact h

/-- A remark goes on with the value, if there is one. A bare key gets the remark for its value if a
space or tab follows its colon, and is no key any more if another blank does. -/
theorem read?_append_remark (hnl : '\n' ∉ a ++ w) (hend : a.trimEnd = a) :
    read? (a ++ w) = (read? a).bind fun entry =>
      (valueWith? w entry.value?).map fun value => ⟨entry.key, some value⟩ := by
  obtain ⟨htake, hdrop⟩ := takeWhile_append_remark hw a
  by_cases hkey : a.takeWhile isKeyChar = []
  · rw [read?_of_no_key (htake.trans hkey), read?_of_no_key hkey]
    rfl
  by_cases hcolon : (Text.trimStart (a.dropWhile isKeyChar)).head? = some ':'
  · obtain ⟨tail, htail⟩ : ∃ tail : Text, Text.trimStart (a.dropWhile isKeyChar) = ':' :: tail :=
      List.head?_eq_some_iff.mp hcolon
    have hafter : Text.trimStart ((a ++ w).dropWhile isKeyChar) = ':' :: (tail ++ w) := by
      rw [hdrop, trimStart_append_of_colon htail]
    obtain ⟨before, hbefore⟩ := exists_append_of_colon htail
    have htailend : tail.trimEnd = tail := Text.trimEnd_eq_self_of_append (hbefore ▸ hend)
    have htailnl : '\n' ∉ tail ++ w := fun h => hnl (by
      rw [hbefore, List.append_assoc]
      exact List.mem_append_right _ h)
    rw [read?_eq_afterColon? (by rwa [htake]) hafter, read?_eq_afterColon? hkey htail, htake,
      afterColon?_append hw htailnl htailend]
    cases afterColon? tail with
    | none => rfl
    | some value? => simp [Option.map_map, Function.comp_def]
  · have hnone : (Text.trimStart ((a ++ w).dropWhile isKeyChar)).head? ≠ some ':' := by
      rw [hdrop]
      exact head?_trimStart_append_remark hw hcolon
    rw [read?_of_no_colon hnone, read?_of_no_colon hcolon]
    rfl

end Remark

end KeyValue

end ComposeLint
