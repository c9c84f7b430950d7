import ComposeLint.Proofs.Document.Lines
import ComposeLint.Proofs.Line.Reading

/-! # Where a section lies

A section is its header, the lines up to the next top-level key, and nothing else. The header
stands in the first column and opens no scalar, so whatever is open above it ends there
(`isHeld_sectionHeader`, `opensScalar_sectionHeader`). -/

namespace ComposeLint

open Line (moved)

namespace Document

/-! ## The header of a section -/

theorem sectionName_plain (kind : EntryKind) : ∀ c ∈ kind.sectionName, Text.isLetter c = true := by
  have hall : kind.sectionName.all Text.isLetter = true := by cases kind <;> decide
  exact List.all_eq_true.mp hall

theorem exists_sectionName_cons (kind : EntryKind) : ∃ c rest, kind.sectionName = c :: rest ∧
    Text.isLetter c = true := by
  cases kind <;> exact ⟨_, _, rfl, by decide⟩

/-- What a header line looks like: the name, a colon, and at most a comment. -/
theorem exists_raw_of_isSectionHeader {kind : EntryKind} {l : Line}
    (h : l.isSectionHeader kind.sectionName = true) :
    ∃ tail, l.raw = kind.sectionName ++ ':' :: tail ∧
      l.trimmed.withoutComment = kind.sectionName ++ [':'] := by
  simp only [Line.isSectionHeader, Bool.and_eq_true, beq_iff_eq, Text.startsWith,
    List.isPrefixOf_iff_prefix] at h
  obtain ⟨⟨tail, htail⟩, hcomment⟩ := h
  exact ⟨tail, by rw [← htail]; simp, hcomment⟩

/-- Only a top-level line is the header of a section. -/
theorem startsTopLevel_of_isSectionHeader {kind : EntryKind} {l : Line}
    (h : l.isSectionHeader kind.sectionName = true) : l.startsTopLevel = true := by
  obtain ⟨tail, hraw, -⟩ := exists_raw_of_isSectionHeader h
  obtain ⟨c, rest, hname, hc⟩ := exists_sectionName_cons kind
  rw [Line.startsTopLevel, hraw, hname]
  exact hc

theorem isHeld_sectionHeader {kind : EntryKind} {l : Line}
    (h : l.isSectionHeader kind.sectionName = true) (holder : Option Nat) :
    isHeld holder l = false := by
  obtain ⟨tail, hraw, -⟩ := exists_raw_of_isSectionHeader h
  obtain ⟨c, rest, hname, hc⟩ := exists_sectionName_cons kind
  rw [hname, List.cons_append] at hraw
  have hblank : l.isBlank = false := by
    rw [Bool.eq_false_iff, ne_eq, Line.isBlank_iff, Line.trimmed, Text.trim_eq_nil_iff]
    intro hall
    have := hall c (by simp [hraw])
    rw [Text.isBlank_eq_false_of_isLetter hc] at this
    cases this
  have hspace : c ≠ ' ' := Text.ne_of_isLetter hc (by decide)
  have hindent : l.indent = 0 := by simp [Line.indent, hraw, hspace]
  cases holder <;> simp [isHeld, hblank, hindent]

theorem opensScalar_sectionHeader {kind : EntryKind} {l : Line}
    (h : l.isSectionHeader kind.sectionName = true) (hnl : '\n' ∉ l.raw) :
    l.opensScalar = false := by
  obtain ⟨tail, hraw, hcomment⟩ := exists_raw_of_isSectionHeader h
  obtain ⟨c, rest, hname, hc⟩ := exists_sectionName_cons kind
  have htrimmed : l.trimmed = kind.sectionName ++ ':' :: Text.trimEnd tail := by
    rw [Line.trimmed, hraw, Text.trim, Text.trimStart, hname, List.cons_append,
      List.dropWhile_cons_of_neg (by simp [Text.isBlank_eq_false_of_isLetter hc]),
      ← List.cons_append, Text.trimEnd, Text.dropEndWhile_append_cons (by decide), Text.trimEnd]
  have hnl' : '\n' ∉ Text.trimEnd tail := fun hmem =>
    hnl (by rw [hraw]; simp [Text.mem_of_mem_dropEndWhile hmem])
  rw [htrimmed] at hcomment
  unfold Line.opensScalar Line.role
  rw [htrimmed]
  rcases Role.ofTrimmed_bare (by simp [hname]) (sectionName_plain kind) hnl' hcomment with
    hrole | hrole <;> rw [hrole]
  rfl

/-! ## Cutting at a section -/

/-- The parts of a document around its first section of a name. -/
structure IsSection (name : Text) (before : List Line) (header : Line) (body after : List Line) :
    Prop where
  before : ∀ l ∈ before, l.isSectionHeader name = false
  header : header.isSectionHeader name = true
  body : ∀ l ∈ body, l.startsTopLevel = false
  after : after.head?.all Line.startsTopLevel = true

variable {name : Text} {before body after : List Line} {header : Line}

theorem IsSection.section? (h : IsSection name before header body after) :
    Document.section? (before ++ header :: (body ++ after)) name =
      some ⟨name, before.length, before.length + 1 + body.length⟩ := by
  have hfind : findSection? (before ++ header :: (body ++ after)) name = some before.length := by
    have hnone : before.findIdx? (·.isSectionHeader name) = none :=
      List.findIdx?_eq_none_iff.mpr h.before
    rw [findSection?, List.findIdx?_append, hnone, Option.none_or, List.findIdx?_cons,
      if_pos h.header]
    simp
  have hend : (body ++ after).findIdx (·.startsTopLevel) = body.length := by
    have hbody : ¬ body.findIdx (·.startsTopLevel) < body.length := by
      intro hlt
      have hget := List.findIdx_getElem (w := hlt)
      rw [h.body _ (List.getElem_mem hlt)] at hget
      cases hget
    rw [List.findIdx_append, if_neg hbody]
    cases after with
    | nil => simp
    | cons l rest =>
      have hl : l.startsTopLevel = true := by simpa using h.after
      simp [List.findIdx_cons, hl]
  have hdrop : (before ++ header :: (body ++ after)).drop (before.length + 1) = body ++ after := by
    simp [List.drop_append]
  rw [Document.section?, hfind, Option.map_some, sectionEnd, hdrop, hend]

/-- The lines from a header to the end of its section. -/
theorem take_drop_section (before : List Line) (header : Line) (body after : List Line) :
    ((before ++ header :: (body ++ after)).take (before.length + 1 + body.length)).drop
      before.length = header :: body := by
  have hassoc : before ++ header :: (body ++ after) = (before ++ header :: body) ++ after := by simp
  rw [hassoc, List.take_left' (by simp; omega), List.drop_left' rfl]

theorem IsSection.sectionBody (h : IsSection name before header body after) :
    Document.sectionBody (before ++ header :: (body ++ after)) name = body := by
  unfold Document.sectionBody
  rw [h.section?]
  dsimp only
  rw [← List.drop_drop, take_drop_section]
  rfl

theorem lt_length_of_findSection? {doc : Document} {start : Nat}
    (h : doc.findSection? name = some start) : start < doc.length :=
  (List.findIdx?_eq_some_iff_getElem.mp h).1

/-- A document without the section has no entries of its kind. -/
theorem blocks_of_section?_eq_none {kind : EntryKind} {doc : Document}
    (h : doc.section? kind.sectionName = none) : doc.blocks kind = [] := by
  rw [blocks, sectionBody, h]
  rfl

/-- Every section that is found cuts the document in this way. -/
theorem exists_isSection {doc : Document} {s : Section} (h : doc.section? name = some s) :
    ∃ before header body after, doc = before ++ header :: (body ++ after) ∧
      IsSection name before header body after ∧
      s = ⟨name, before.length, before.length + 1 + body.length⟩ := by
  obtain ⟨start, hstart, -⟩ := Option.map_eq_some_iff.mp h
  obtain ⟨hlt, hheader, hbefore⟩ := List.findIdx?_eq_some_iff_getElem.mp hstart
  have hdoc : doc = doc.take start ++ doc[start] :: ((doc.drop (start + 1)).takeWhile
      (!·.startsTopLevel) ++ (doc.drop (start + 1)).dropWhile (!·.startsTopLevel)) := by
    rw [List.takeWhile_append_dropWhile, ← List.drop_eq_getElem_cons hlt, List.take_append_drop]
  have hsection : IsSection name (doc.take start) doc[start]
      ((doc.drop (start + 1)).takeWhile (!·.startsTopLevel))
      ((doc.drop (start + 1)).dropWhile (!·.startsTopLevel)) := by
    refine ⟨fun l hl => ?_, hheader, fun l hl => ?_, ?_⟩
    · obtain ⟨j, hj, rfl⟩ := List.mem_take_iff_getElem.mp hl
      simpa using hbefore j (by omega)
    · simpa using List.mem_takeWhile_imp hl
    · have hhead := List.head?_dropWhile_not (!·.startsTopLevel) (doc.drop (start + 1))
      cases hl : ((doc.drop (start + 1)).dropWhile (!·.startsTopLevel)).head? with
      | none => rfl
      | some l => simpa [hl] using hhead
  refine ⟨_, _, _, _, hdoc, hsection, ?_⟩
  rw [hdoc, hsection.section?] at h
  exact (Option.some.inj h).symm

end Document

end ComposeLint
