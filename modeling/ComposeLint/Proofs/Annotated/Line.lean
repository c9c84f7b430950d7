import ComposeLint.Proofs.Alike.Check
import ComposeLint.Proofs.Bare.Block
import ComposeLint.Proofs.Check.Lookups
import ComposeLint.Proofs.Line.Remark

/-! # Lines with a remark behind them

A content line without quotes that gets a remark behind it reads like the line that it was
(`Line.Annotates.alike`), and the check of single lines finds the same in it. Two readers look at the
text of a line without cutting comments off: that of sources of long mounts, and that of commands. -/

namespace ComposeLint

/-- A number sign is no part of the name of a volume. -/
theorem Mount.namedVolume?_eq_none {source : Text} (h : '#' ∈ source) : namedVolume? source = none := by
  have hmem : '#' ∈ source.trim := Text.mem_trim (by decide) h
  have hname : isVolumeName source.trim = false := by
    cases hsource : source.trim with
    | nil => rfl
    | cons c rest =>
      rw [hsource] at hmem
      rcases List.mem_cons.mp hmem with rfl | hrest
      · rfl
      · refine Bool.and_eq_false_imp.mpr fun _ => List.all_eq_false.mpr ⟨'#', hrest, by decide⟩
  simp [namedVolume?, hname]

/-- The line `m` is the content line `l` with the remark `w` behind its text. There are no quotes,
no entry starts there, and a bare key has a space or a tab after its colon. -/
structure Line.Annotates (w : Text) (m l : Line) : Prop where
  remark : w.IsRemark
  number : m.number = l.number
  inScalar : m.inScalar = l.inScalar
  raw : m.raw.trimEnd = l.raw.trimEnd ++ w
  newline : '\n' ∉ m.raw
  quotes : ∀ c ∈ m.raw, Text.isQuote c = false
  content : l.isContent = true
  startsEntry : l.startsEntry = false
  bare (key : Text) : KeyValue.read? l.trimmed = some ⟨key, none⟩ →
    w.head?.any Text.isSpaceOrTab = true

namespace Line.Annotates

variable {w : Text} {m l : Line} (h : m.Annotates w l)
include h

theorem isBlank_eq_false : l.isBlank = false := isBlank_of_isContent h.content

theorem trimmed_ne_nil : l.raw.trim ≠ [] := Line.trimmed_ne_nil h.isBlank_eq_false

/-- The common start of both lines shows something. -/
theorem exists_mem : ∃ c ∈ l.raw.trimEnd, Text.isBlank c = false :=
  Text.exists_mem_trimEnd h.trimmed_ne_nil

theorem trimmed : m.trimmed = l.trimmed ++ w := by
  rw [Line.trimmed, Text.trim_eq_trimStart_trimEnd, h.raw, Text.trimStart_append h.exists_mem,
    ← Text.trim_eq_trimStart_trimEnd, Line.trimmed]

theorem trimmed_ne_nil_right : m.raw.trim ≠ [] := by
  have hmem : '#' ∈ m.trimmed := h.trimmed ▸ List.mem_append_right _ h.remark.sign_mem
  exact List.ne_nil_of_mem hmem

omit h in
theorem mem_raw_of_mem_trimmed {c : Char} (hc : c ∈ m.trimmed) : c ∈ m.raw :=
  (List.dropWhile_sublist _).mem (Text.mem_of_mem_dropEndWhile hc)

theorem isQuote_eq_false {c : Char} (hc : c ∈ l.trimmed) : Text.isQuote c = false :=
  h.quotes c (mem_raw_of_mem_trimmed (h.trimmed ▸ List.mem_append_left w hc))

/-! ## What is read off the text -/

theorem withoutComment : m.trimmed.withoutComment = l.trimmed.withoutComment := by
  rw [h.trimmed, Text.withoutComment_append (fun _ => h.isQuote_eq_false) h.remark]

theorem read?_trimmed : KeyValue.read? m.trimmed = (KeyValue.read? l.trimmed).bind fun entry =>
    (KeyValue.valueWith? w entry.value?).map fun value => ⟨entry.key, some value⟩ := by
  rw [h.trimmed]
  refine KeyValue.read?_append_remark h.remark (fun hnl => ?_) ?_
  · exact h.newline (mem_raw_of_mem_trimmed (h.trimmed ▸ hnl))
  · exact Text.trimEnd_trimEnd _

theorem role : m.role = l.role := by
  obtain ⟨c, rest, hrest⟩ : ∃ c rest, l.trimmed = c :: rest :=
    List.exists_cons_of_ne_nil h.trimmed_ne_nil
  have hright : m.trimmed = c :: (rest ++ w) := by rw [h.trimmed, hrest, List.cons_append]
  have hsign : c ≠ '#' := by
    rintro rfl
    have hcomment : l.isComment = true := isComment_iff.mpr (by rw [hrest, List.head?_cons])
    have hcontent := h.content
    rw [isContent, hcomment, Bool.not_true, Bool.and_false] at hcontent
    cases hcontent
  by_cases hdash : c = '-'
  · rw [Line.role, Line.role, hright, hrest, hdash]
    rfl
  rw [Line.role, hright, Role.ofTrimmed_eq_of_head ⟨hsign, hdash⟩, ← hright, h.read?_trimmed,
    Line.role, hrest, Role.ofTrimmed_eq_of_head ⟨hsign, hdash⟩, ← hrest]
  cases hread : KeyValue.read? l.trimmed with
  | none => rfl
  | some entry =>
    obtain ⟨key, value?⟩ := entry
    cases value? with
    | none =>
      have hspace := h.bare key hread
      simp only [Option.bind_some, KeyValue.valueWith?, hspace, if_true, Option.map_some,
        Option.elim_some, KeyValue.value, Option.getD_some, Option.getD_none,
        h.remark.withoutComment_dropWhile hspace]
      rfl
    | some value =>
      have hquotes : ∀ d ∈ value, Text.isQuote d = false := fun d hd =>
        h.isQuote_eq_false ((KeyValue.sublist_of_read? hread).mem hd)
      simp only [Option.bind_some, KeyValue.valueWith?, Option.map_some, Option.elim_some,
        KeyValue.value, Option.getD_some, Text.withoutComment_append hquotes h.remark]

theorem item : m.item = l.item := by
  have hne : l.trimmed ≠ [] := h.trimmed_ne_nil
  have hdrop : m.trimmed.drop 1 = l.trimmed.drop 1 ++ w := by
    rw [h.trimmed]
    exact List.drop_append_of_le_length (List.length_pos_iff.mpr hne)
  rw [Line.item, Line.isListItem, h.role, hdrop, Text.withoutComment_append
    (fun c hc => h.isQuote_eq_false (List.mem_of_mem_drop hc)) h.remark, Line.item, Line.isListItem]

/-! ## What is read off the margin -/

theorem margin : m.margin = l.margin := by
  have hblank : ∀ c, Text.isSpaceOrTab c = true → Text.isBlank c = true := fun _ =>
    Text.isBlank_of_isSpaceOrTab
  obtain ⟨c, hc, hstop⟩ := h.exists_mem
  rw [Line.margin, ← Text.takeWhile_trimEnd hblank h.trimmed_ne_nil_right, h.raw,
    (Text.takeWhile_append_of_exists ⟨c, hc, Text.isSpaceOrTab_eq_false_of_isBlank hstop⟩ w).1,
    Text.takeWhile_trimEnd hblank h.trimmed_ne_nil, Line.margin]

theorem startsTopLevel : m.startsTopLevel = l.startsTopLevel := by
  rw [← moved_startsTopLevel id m, ← moved_startsTopLevel id l, Bool.eq_iff_iff,
    startsTopLevel_iff, startsTopLevel_iff, moved_raw, moved_raw, h.raw]
  exact exists_congr fun c => and_congr_right fun _ =>
    Text.prefix_append_iff [] (by simp) h.exists_mem w

theorem startsEntry_eq_false : m.startsEntry = false := by
  rw [← h.startsEntry, ← moved_startsEntry id m, ← moved_startsEntry id l, Bool.eq_iff_iff,
    startsEntry_iff, startsEntry_iff, moved_raw, moved_raw, h.raw]
  exact exists_congr fun c => and_congr_right fun _ =>
    Text.prefix_append_iff [' ', ' '] (List.all_eq_true.mp (by decide)) h.exists_mem w

theorem isHeader (kind : EntryKind) : kind.isHeader m = kind.isHeader l := by
  have hnone {k : Line} (hk : k.startsEntry = false) : kind.isHeader k = false := by
    rw [Bool.eq_false_iff]
    intro hheader
    rw [EntryKind.startsEntry_of_isHeader hheader] at hk
    cases hk
  rw [hnone h.startsEntry_eq_false, hnone h.startsEntry]

theorem isSectionHeader (name : Text) : m.isSectionHeader name = l.isSectionHeader name := by
  rw [← moved_isSectionHeader id m, ← moved_isSectionHeader id l, Line.isSectionHeader,
    Line.isSectionHeader, moved_trimmed, moved_trimmed, h.withoutComment, moved_raw, moved_raw,
    h.raw]
  by_cases hheader : l.trimmed.withoutComment = name ++ [':']
  · -- the header is no longer than the text of the line, so it does not reach into the remark
    have hlength : (name ++ [':']).length ≤ l.raw.trimEnd.length := by
      rw [← hheader]
      have htrimmed : l.trimmed = l.raw.trimEnd.trimStart := Text.trim_eq_trimStart_trimEnd _
      exact (Text.isPrefix_withoutComment _).length_le.trans
        (htrimmed ▸ (List.dropWhile_sublist _).length_le)
    congr 1
    rw [Text.startsWith, Text.startsWith, Bool.eq_iff_iff, List.isPrefixOf_iff_prefix,
      List.isPrefixOf_iff_prefix]
    exact ⟨fun hp => List.prefix_of_prefix_length_le hp (List.prefix_append _ _) hlength,
      fun hp => hp.trans (List.prefix_append _ _)⟩
  · rw [beq_eq_false_iff_ne.mpr hheader, Bool.and_false, Bool.and_false]

theorem alike : m.Alike id l where
  number := h.number
  inScalar := h.inScalar
  role := h.role
  item := h.item
  margin _ := h.margin
  startsTopLevel := h.startsTopLevel
  startsEntry := h.startsEntry_eq_false.trans h.startsEntry.symm
  isSectionHeader kind := h.isSectionHeader kind.sectionName
  isHeader := h.isHeader
  trimmed hentry := by
    rw [h.startsEntry] at hentry
    cases hentry

/-! ## Checks of single lines -/

theorem openQuote? : m.trimmed.openQuote? = l.trimmed.openQuote? := by
  have hm : m.trimmed.openQuote? = none := Text.openQuote?_eq_none fun c hc =>
    h.quotes c (mem_raw_of_mem_trimmed hc)
  have hl : l.trimmed.openQuote? = none := Text.openQuote?_eq_none fun _ => h.isQuote_eq_false
  rw [hm, hl]

/-- No colon of a remark comes first. -/
theorem colonColumn {key : Text}
    (hkey : Check.gluedKey? l.trimmed.withoutComment = some key) :
    Check.colonColumn m.raw = Check.colonColumn l.raw := by
  have hl : ':' ∈ l.raw := Check.colon_mem_raw hkey
  have hm : ':' ∈ m.raw := Check.colon_mem_raw (h.withoutComment.symm ▸ hkey)
  have hcolon : Text.isBlank ':' = false := by decide
  rw [Check.colonColumn, ← Text.idxOf_trimEnd hcolon hm, h.raw, List.idxOf_append,
    if_pos (Text.mem_trimEnd hcolon hl), Text.idxOf_trimEnd hcolon hl, Check.colonColumn]

theorem lineIssues : Check.lineIssues m = Check.lineIssues l :=
  Check.lineIssues_alike h.alike h.withoutComment h.openQuote? fun _ => h.colonColumn

/-- A remark is not cut off a line that is no item, so no volume is named there any more. -/
theorem longSource?_eq_none (hitem : l.isListItem = false) : Check.longSource? m = none := by
  have hitem' : m.isListItem = false := h.alike.isListItem.trans hitem
  unfold Check.longSource?
  rw [hitem', if_neg Bool.false_ne_true]
  cases hread : KeyValue.read? m.trimmed with
  | none => rfl
  | some entry =>
    obtain ⟨key, value?⟩ := entry
    obtain ⟨value, rfl, hsign⟩ : ∃ value, value? = some value ∧ '#' ∈ value := by
      have hannotated := hread
      rw [h.read?_trimmed] at hannotated
      obtain ⟨found, -, hfound⟩ := Option.bind_eq_some_iff.mp hannotated
      obtain ⟨value, hvalue, heq⟩ := Option.map_eq_some_iff.mp hfound
      exact ⟨value, (KeyValue.mk.inj heq).2.symm,
        KeyValue.sign_mem_of_valueWith? h.remark hvalue⟩
    have hquotes : ∀ c ∈ value, Text.isQuote c = false := fun c hc =>
      h.quotes c (mem_raw_of_mem_trimmed ((KeyValue.sublist_of_read? hread).mem hc))
    have hname : Mount.namedVolume? value.unquote = none := by
      rw [Text.unquote_eq_trim hquotes]
      exact Mount.namedVolume?_eq_none (Text.mem_trim (by decide) hsign)
    simp only [Option.bind_eq_bind, Option.bind_some, KeyValue.value, Option.getD_some, hname,
      Option.map_none, ite_self]

theorem longSource? (hsource : l.isListItem = true ∨ Check.longSource? l = none) :
    Check.longSource? m = Check.longSource? l := by
  cases hitem : l.isListItem with
  | true =>
    rw [Check.longSource?, h.alike.isListItem, hitem, h.item, h.number, Check.longSource?, hitem]
    rfl
  | false =>
    rw [hsource.resolve_left (by simp [hitem]), h.longSource?_eq_none hitem]

end Line.Annotates

end ComposeLint
