import ComposeLint.Proofs.Bare.Block
import ComposeLint.Proofs.Line.Remark

/-! # The grammar of lines

The first character of a trimmed line tells blank lines, comments and list items. Any other line is a
mapping line if it can be written as a key, blanks, a colon and a tail, and it can be written so in
one way at most: no key character is a blank, and neither is a colon, so each part ends where the
next one starts (`KeyValue.Splits.parts`). The reader takes these parts in one pass and never has to
go back. -/

namespace ComposeLint

namespace KeyValue

/-- The text is a key, blanks of any kind, a colon, and a tail that is empty or set off by a space or
tab. -/
structure Splits (t key gap tail : Text) : Prop where
  eq : t = key ++ (gap ++ ':' :: tail)
  key_ne_nil : key ≠ []
  key_chars : ∀ c ∈ key, isKeyChar c = true
  gap_blank : ∀ c ∈ gap, Text.isBlank c = true
  tail_set_off : tail.head?.all Text.isSpaceOrTab = true

namespace Splits

variable {t key gap tail : Text} (h : Splits t key gap tail)
include h

/-- The key is the run of key characters, and the gap the run of blanks behind it. -/
theorem parts : t.takeWhile isKeyChar = key ∧
    (t.dropWhile isKeyChar).takeWhile Text.isBlank = gap ∧
    Text.trimStart (t.dropWhile isKeyChar) = ':' :: tail := by
  have hparts := parts_of_key h.key_chars h.gap_blank tail
  rwa [← h.eq] at hparts

theorem unique {key' gap' tail' : Text} (h' : Splits t key' gap' tail') :
    key = key' ∧ gap = gap' ∧ tail = tail' := by
  obtain ⟨hkey, hgap, htail⟩ := h.parts
  obtain ⟨hkey', hgap', htail'⟩ := h'.parts
  exact ⟨hkey.symm.trans hkey', hgap.symm.trans hgap', (List.cons.inj (htail.symm.trans htail')).2⟩

/-- A text that splits is read, with its tail for the value but for the spaces and tabs in front. -/
theorem exists_read? (hnl : '\n' ∉ t) : ∃ value?, read? t = some ⟨key, value?⟩ ∧
    value?.getD [] = tail.dropWhile Text.isSpaceOrTab := by
  obtain ⟨hkey, -, hcolon⟩ := h.parts
  have hne : t.takeWhile isKeyChar ≠ [] := hkey ▸ h.key_ne_nil
  rw [read?_of_colon hne hcolon, hkey]
  cases htail : tail with
  | nil => exact ⟨none, rfl, rfl⟩
  | cons c rest =>
    have hspace : Text.isSpaceOrTab c = true := by simpa [htail] using h.tail_set_off
    have hvalue : '\n' ∉ (c :: rest).dropWhile Text.isSpaceOrTab := fun hmem => hnl <| by
      rw [h.eq, htail]
      simp [(List.dropWhile_sublist Text.isSpaceOrTab).mem hmem]
    rw [List.head?_cons, Option.any_some, if_pos hspace, singleLine?_eq_some hvalue]
    exact ⟨_, rfl, rfl⟩

end Splits

/-- What is read splits at the colon that the reader stops at. -/
theorem exists_splits_of_read? {t : Text} {entry : KeyValue} (hnl : '\n' ∉ t)
    (h : read? t = some entry) : ∃ gap tail, Splits t entry.key gap tail := by
  by_cases hkey : t.takeWhile isKeyChar = []
  · rw [read?_of_no_key hkey] at h
    cases h
  by_cases hhead : (Text.trimStart (t.dropWhile isKeyChar)).head? = some ':'
  · obtain ⟨tail, hcolon⟩ : ∃ tail : Text, Text.trimStart (t.dropWhile isKeyChar) = ':' :: tail :=
      List.head?_eq_some_iff.mp hhead
    have heq : t = t.takeWhile isKeyChar ++
        ((t.dropWhile isKeyChar).takeWhile Text.isBlank ++ ':' :: tail) := by
      rw [← hcolon, Text.trimStart, List.takeWhile_append_dropWhile, List.takeWhile_append_dropWhile]
    have hsplits (hsetOff : tail.head?.all Text.isSpaceOrTab = true) :
        Splits t (t.takeWhile isKeyChar) ((t.dropWhile isKeyChar).takeWhile Text.isBlank) tail :=
      ⟨heq, hkey, fun _ => List.mem_takeWhile_imp, fun _ => List.mem_takeWhile_imp, hsetOff⟩
    rw [read?_of_colon hkey hcolon] at h
    split at h
    · next hspace =>
      obtain ⟨value, -, rfl⟩ := Option.map_eq_some_iff.mp h
      refine ⟨_, tail, hsplits ?_⟩
      cases tail with
      | nil => rfl
      | cons c rest => exact hspace
    · split at h
      · next hend =>
        obtain rfl := Option.some.inj h
        simp only [Bool.or_eq_true, List.isEmpty_iff, beq_iff_eq] at hend
        rcases hend with rfl | rfl
        · exact ⟨_, [], hsplits rfl⟩
        · exact absurd (by rw [heq]; simp) hnl
      · cases h
  · rw [read?_of_no_colon hhead] at h
    cases h

end KeyValue

/-- A value is the same with and without the spaces and tabs in front of it, once the comment is cut
off and the rest trimmed. -/
theorem Text.trim_withoutComment_dropWhile {tail : Text}
    (h : tail.head?.all isSpaceOrTab = true) :
    trim (withoutComment (tail.dropWhile isSpaceOrTab)) = trim (withoutComment tail) := by
  cases tail with
  | nil => rfl
  | cons c rest =>
    have hspace : ∀ d ∈ (c :: rest).takeWhile isSpaceOrTab, isBlank d = true := fun d hd =>
      isBlank_of_isSpaceOrTab (List.mem_takeWhile_imp hd)
    have hread : beforeComment none none (c :: rest) = (c :: rest).takeWhile isSpaceOrTab ++
        beforeComment none none ((c :: rest).dropWhile isSpaceOrTab) :=
      beforeComment_skip_space (by simpa using h) none
    rw [withoutComment, withoutComment, trim_trimEnd, trim_trimEnd, hread, trim_blank_append hspace]

/-- Where nothing can be read, nothing splits, and the parts that are read are those of the split. -/
theorem KeyValue.exists_read?_iff {t : Text} (hnl : '\n' ∉ t) (key value : Text) :
    (∃ entry, read? t = some entry ∧ entry.key = key ∧ entry.value.withoutComment.trim = value) ↔
      ∃ gap tail, Splits t key gap tail ∧ value = tail.withoutComment.trim := by
  have hvalue {entry : KeyValue} {gap tail : Text} (hread : read? t = some entry)
      (h : Splits t entry.key gap tail) :
      entry.value.withoutComment.trim = tail.withoutComment.trim := by
    obtain ⟨value?, hread', htail⟩ := h.exists_read? hnl
    have heq : entry.value? = value? :=
      congrArg KeyValue.value? (Option.some.inj (hread.symm.trans hread'))
    rw [KeyValue.value, heq, htail, Text.trim_withoutComment_dropWhile h.tail_set_off]
  constructor
  · rintro ⟨entry, hread, rfl, rfl⟩
    obtain ⟨gap, tail, h⟩ := exists_splits_of_read? hnl hread
    exact ⟨gap, tail, h, hvalue hread h⟩
  · rintro ⟨gap, tail, h, rfl⟩
    obtain ⟨value?, hread, -⟩ := h.exists_read? hnl
    exact ⟨_, hread, rfl, hvalue hread h⟩

/-- Past comments and items only the key reader decides. -/
theorem Role.ofTrimmed_eq_mappingKey_iff (t key value : Text) :
    Role.ofTrimmed t = .mappingKey key value ↔ t.head? ≠ some '#' ∧ t.head? ≠ some '-' ∧
      ∃ entry, KeyValue.read? t = some entry ∧ entry.key = key ∧
        entry.value.withoutComment.trim = value := by
  cases t with
  | nil => simp [Role.ofTrimmed, show KeyValue.read? [] = none from rfl]
  | cons c rest =>
    by_cases hhash : c = '#'
    · simp [hhash, Role.ofTrimmed]
    by_cases hdash : c = '-'
    · simp [hdash, Role.ofTrimmed]
    rw [Role.ofTrimmed_eq_of_head ⟨hhash, hdash⟩]
    cases KeyValue.read? (c :: rest) <;> simp [hhash, hdash]

namespace Line

theorem isListItem_iff (l : Line) : l.isListItem = true ↔ l.trimmed.head? = some '-' := by
  unfold isListItem role Role.ofTrimmed
  split
  · next h => simp [h]
  · next h => simp [h]
  · next h => simp [h]
  · next hdash =>
    have hhead : l.trimmed.head? ≠ some '-' := fun h => by
      obtain ⟨rest, hrest⟩ := List.head?_eq_some_iff.mp h
      exact hdash rest hrest
    split <;> simp [hhead]

theorem key?_eq_some_iff (l : Line) (key : Text) :
    l.key? = some key ↔ ∃ value, l.role = .mappingKey key value := by
  rw [key?]
  cases l.role <;> simp

theorem value?_eq_some_iff (l : Line) (value : Text) :
    l.value? = some value ↔ ∃ key, l.role = .mappingKey key value := by
  rw [value?]
  cases l.role <;> simp

/-- The indent counts the spaces that the text starts with. -/
theorem exists_indent_ofText (number : Int) (raw : Text) :
    ∃ rest, raw = List.replicate (ofText number raw).indent ' ' ++ rest ∧
      rest.head? ≠ some ' ' := by
  obtain ⟨returns, hraw, hreturns⟩ := Text.exists_dropEndWhile_append (· == '\r') raw
  have hstop : returns.head?.any (· == ' ') = false := by
    cases returns with
    | nil => rfl
    | cons c rest =>
      obtain rfl : c = '\r' := by simpa using hreturns c List.mem_cons_self
      rfl
  have hindent : (ofText number raw).indent = (raw.takeWhile (· == ' ')).length := by
    conv_rhs => rw [hraw, (Text.takeWhile_append_of_head? hstop _).1]
    rfl
  have hspaces : raw.takeWhile (· == ' ') = List.replicate (ofText number raw).indent ' ' :=
    List.eq_replicate_iff.mpr ⟨hindent.symm, fun c hc => by simpa using List.mem_takeWhile_imp hc⟩
  refine ⟨raw.dropWhile (· == ' '), ?_, fun hhead => ?_⟩
  · rw [← hspaces, List.takeWhile_append_dropWhile]
  · have hnot := List.head?_dropWhile_not (· == ' ') raw
    rw [hhead] at hnot
    simp at hnot

end Line

/-- **Lines follow their grammar.** Carriage returns at the end and outer blanks are no part of it.
What remains is blank if it is empty, a comment behind `#`, an item behind a dash, and else a mapping
if and only if it splits into a key, blanks, a colon and a tail, which it does in one way at most;
the value is the tail without its comment and trimmed. No other line has a key or a value. A margin
that mixes spaces and tabs has a tab in it, and the indent counts the spaces in front. -/
theorem line_follows_grammar {raw : Text} (hnl : '\n' ∉ raw) (number : Int) :
    let t := (raw.dropEndWhile (· == '\r')).trim
    let l := Line.ofText number raw
    (l.role = .blank ↔ t = []) ∧
      (l.role = .comment ↔ t.head? = some '#') ∧
      (l.role = .listItem ↔ t.head? = some '-') ∧
      (∀ key value, l.role = .mappingKey key value ↔ t.head? ≠ some '#' ∧ t.head? ≠ some '-' ∧
        ∃ gap tail, KeyValue.Splits t key gap tail ∧ value = tail.withoutComment.trim) ∧
      (∀ key gap tail key' gap' tail', KeyValue.Splits t key gap tail →
        KeyValue.Splits t key' gap' tail' → key = key' ∧ gap = gap' ∧ tail = tail') ∧
      (∀ key, l.key? = some key ↔ ∃ value, l.role = .mappingKey key value) ∧
      (∀ value, l.value? = some value ↔ ∃ key, l.role = .mappingKey key value) ∧
      (l.hasMixedMargin = true → l.hasTabMargin = true) ∧
      ∃ rest, raw = List.replicate l.indent ' ' ++ rest ∧ rest.head? ≠ some ' ' := by
  intro t l
  have hnlt : '\n' ∉ t := fun hmem => hnl <| Text.mem_of_mem_dropEndWhile <|
    (List.dropWhile_sublist _).mem <| Text.mem_of_mem_dropEndWhile hmem
  refine ⟨?_, ?_, ?_, fun key value => ?_, fun _ _ _ _ _ _ h h' => h.unique h',
    l.key?_eq_some_iff, l.value?_eq_some_iff, fun h => (Bool.and_eq_true_iff.mp h).1,
    Line.exists_indent_ofText number raw⟩
  · rw [← beq_iff_eq]
    exact l.isBlank_iff
  · rw [← beq_iff_eq]
    exact l.isComment_iff
  · rw [← beq_iff_eq]
    exact l.isListItem_iff
  · rw [← KeyValue.exists_read?_iff hnlt]
    exact Role.ofTrimmed_eq_mappingKey_iff t key value

/-- A key with quotes, a dash, a slash and braces in it, a blank before the colon that is no space, a
colon and a number sign in the value, and two carriage returns at the end. -/
theorem line_follows_grammar_spaced_colon :
    let raw : Text := "  \"a-b\"/$\x7bX\x7d\u00a0:\t'x: y # z' # note\r\r".toList
    let l := Line.ofText 1 raw
    '\n' ∉ raw ∧ l.role = .mappingKey "\"a-b\"/$\x7bX\x7d".toList "'x: y # z'".toList ∧
      l.key? = some "\"a-b\"/$\x7bX\x7d".toList := by
  intro raw l
  have hnl : '\n' ∉ raw := by decide
  obtain ⟨-, -, -, hmapping, -, hkey, -⟩ := line_follows_grammar hnl 1
  have hrole := (hmapping "\"a-b\"/$\x7bX\x7d".toList "'x: y # z'".toList).mpr
    ⟨by decide, by decide, ['\u00a0'], "\t'x: y # z' # note".toList,
      ⟨by decide, by decide, List.all_eq_true.mp (by decide), List.all_eq_true.mp (by decide),
        by decide⟩, by decide⟩
  exact ⟨hnl, hrole, (hkey _).mpr ⟨_, hrole⟩⟩

end ComposeLint
