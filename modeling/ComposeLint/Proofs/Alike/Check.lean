import ComposeLint.Proofs.Alike.Block
import ComposeLint.Proofs.Check.Service
import ComposeLint.Validation

/-! # Findings in lines that read alike

The checks of services, placement, practice and repeated keys read lines by what lines that read
alike share. Two checks read more. The check of single lines goes through their text, and the check
of volumes takes the sources of long mounts off it; both find the same over changed lines if this
much stays as well (`Pass.run_alike`). -/

namespace ComposeLint

section

variable {place : Int → Int} {f : Line → Line} (h : ∀ l, (f l).Alike place l)
include h

theorem Block.showsAs_alike (b : Block) : (b.withLines f).ShowsAs place b where
  number := (h b.header).number
  value := b.value_alike h
  entries := by simp [numberedEntries, entries_alike h, Function.comp_def, (h _).number]
  children := by simp [children_withLines (Line.sameShape_of_alike h)]

theorem Block.readsAs_alike {service : Block}
    (hname : (service.withLines f).name = service.name) :
    (service.withLines f).ReadsAs place service where
  number := (h service.header).number
  name := hname
  hasChild := service.hasChild_alike h
  child? key := child?_showsAs (showsAs_alike h) (service.child?_alike h key)

namespace Check

/-- The issues of a service move with its block, and the check fails at both places alike. -/
theorem serviceIssues_alike {service : Block}
    (hname : (service.withLines f).name = service.name) :
    serviceIssues (service.withLines f) =
      (serviceIssues service).map (List.map (Issue.moved place)) :=
  serviceIssues_of_readsAs (Block.readsAs_alike h hname)

/-! ## Placement -/

theorem definesOneOf_alike (keys : List Text) (l : Line) :
    definesOneOf keys (f l) = definesOneOf keys l := by
  rw [definesOneOf, (h l).role, (h l).item, definesOneOf]

omit h in
theorem isContent_of_isIndentedKey {l : Line} (hl : isIndentedKey l = true) :
    l.isContent = true := by
  simp only [isIndentedKey, Bool.and_eq_true, beq_iff_eq] at hl
  have hv := hl.1.1
  unfold Line.value? at hv
  split at hv
  · next hr => simp [Line.isContent, Line.isBlank, Line.isComment, hr]
  · cases hv

theorem isIndentedKey_alike (l : Line) : isIndentedKey (f l) = isIndentedKey l := by
  unfold isIndentedKey
  rw [(h l).value?, (h l).inScalar]
  cases hb : l.isBlank with
  | false => rw [(h l).head?_any_isSpaceOrTab hb]
  | true =>
    have hv : l.value? = none := by
      simp only [Line.isBlank, beq_iff_eq] at hb
      simp [Line.value?, hb]
    simp [hv]

theorem placementIssue?_alike (b : Block) :
    placementIssue? (b.withLines f) = (placementIssue? b).map (Issue.moved place) := by
  have hstop : ((b.withLines f).body.getLast?.map Line.number).getD (place b.header.number) =
      place ((b.body.getLast?.map Line.number).getD b.header.number) := by
    simp only [Block.withLines_body, List.getLast?_map]
    cases b.body.getLast? with
    | none => rfl
    | some last => exact (h last).number
  have hdefines (keys : List Text) : (b.withLines f).content.any (definesOneOf keys) =
      b.content.any (definesOneOf keys) := by
    simp only [Block.content_withLines (Line.sameShape_of_alike h), List.any_map, Function.comp_def, definesOneOf_alike h]
  unfold placementIssue?
  rw [Block.withLines_header, (h b.header).key?]
  cases b.header.key? with
  | none => rfl
  | some key =>
    simp only [Option.bind_eq_bind, Option.bind_some]
    cases misplacement? key with
    | none => rfl
    | some found =>
      obtain ⟨finding, keys?⟩ := found
      rw [(h b.header).number, hstop]
      cases keys? with
      | none => rfl
      | some keys =>
        simp only [Option.bind_some, hdefines]
        split <;> rfl

theorem placementIssues_alike (doc : Document) :
    placementIssues (doc.map f) = (placementIssues doc).map (Issue.moved place) := by
  unfold placementIssues
  rw [Block.blocksAt_map (isIndentedKey_alike h) fun l rest hl =>
    Block.owned_map (Line.sameShape_of_alike h) (isContent_of_isIndentedKey hl) rest, List.filterMap_map,
    List.map_filterMap]
  congr 1
  funext b
  exact placementIssue?_alike h b

end Check

end

/-! ## Documents whose lines keep their numbers -/

namespace Check

variable {f : Line → Line} (h : ∀ l, (f l).Alike id l) (doc : Document)
include h

theorem structureIssues_alike : structureIssues (doc.map f) = structureIssues doc := by
  have heach : ((doc.blocks .service).map (Block.withLines f)).mapM serviceIssues =
      (doc.blocks .service).mapM serviceIssues := by
    rw [List.mapM_map]
    exact mapM_congr fun b hb => serviceIssues_eq_of_readsAs
      (Block.readsAs_alike h (Document.name_of_mem_blocks_map (Line.sameShape_of_alike h) hb))
  unfold structureIssues
  rw [Document.section?_map (Line.sameShape_of_alike h), placementIssues_alike h, Document.blocks_map (Line.sameShape_of_alike h), Issue.moved_id,
    List.map_id]
  simp only [heach, List.isEmpty_map]

theorem duplicateKeysFrom_alike : ∀ levels,
    duplicateKeysFrom levels (doc.map f) = duplicateKeysFrom levels doc := by
  induction doc with
  | nil => exact fun _ => rfl
  | cons l rest ih =>
    intro levels
    simp only [List.map_cons, duplicateKeysFrom, (h l).isContent, (h l).inScalar, (h l).key?,
      (h l).number, id_eq, ih]
    split
    · rfl
    · next hl =>
      have hc : l.isContent = true := by
        simp only [Bool.or_eq_true, Bool.not_eq_true', not_or, Bool.not_eq_false] at hl
        exact hl.1
      rw [(h l).indent (Line.isBlank_of_isContent hc)]

theorem syntaxIssues_alike (hline : ∀ l, lineIssues (f l) = lineIssues l) :
    syntaxIssues (doc.map f) = syntaxIssues doc := by
  simp only [syntaxIssues, List.flatMap_map, hline, duplicateKeyIssues, duplicateKeysFrom_alike h]

theorem linesWithKey_alike (key : String) :
    linesWithKey (doc.map f) key = (linesWithKey doc key).map f := by
  simp [linesWithKey, List.filter_map, Function.comp_def, (h _).key?, (h _).inScalar]

theorem bestPracticeIssues_alike : bestPracticeIssues (doc.map f) = bestPracticeIssues doc := by
  have hinline : inlineEnvironmentIssues (doc.map f) = inlineEnvironmentIssues doc := by
    unfold inlineEnvironmentIssues
    rw [linesWithKey_alike h, linesWithKey_alike h]
    cases linesWithKey doc "environment" <;> simp [(h _).number]
  have hlatest : latestTagIssues (doc.map f) = latestTagIssues doc := by
    simp only [latestTagIssues, linesWithKey_alike h, List.filter_map, List.map_map,
      Function.comp_def, (h _).value, (h _).number, id_eq]
  simp only [bestPracticeIssues, missingSectionIssues, healthcheckIssues, hinline, hlatest,
    Document.findSection?_map (Line.sameShape_of_alike h), linesWithKey_alike h, List.length_map, List.isEmpty_map]

/-! ## Volumes -/

omit doc in
theorem declaredVolume?_alike (l : Line) : declaredVolume? (f l) = declaredVolume? l := by
  have hbare : declaredVolume?.bareName? (f l) = declaredVolume?.bareName? l := by
    rw [declaredVolume?.bareName?, (h l).isHeader, declaredVolume?.bareName?]
    split
    · next hheader =>
      rw [(h l).trimmed (EntryKind.startsEntry_of_isHeader hheader), (h l).number]
      rfl
    · rfl
  unfold declaredVolume?
  rw [(h l).inScalar, (h l).key?, (h l).number, hbare]
  cases hb : l.isBlank with
  | false => rw [(h l).hasTabMargin hb, (h l).indent hb]; rfl
  | true =>
    have hkey : l.key? = none := by
      have hrole : l.role = .blank := by simpa [Line.isBlank] using hb
      rw [Line.key?, hrole]
    simp [declaredVolume?.bareName?, hkey, Line.isHeader_of_isBlank .volume hb]

theorem declaredVolumes_alike : declaredVolumes (doc.map f) = declaredVolumes doc := by
  simp only [declaredVolumes, Document.sectionBody_map (Line.sameShape_of_alike h), List.filterMap_map, Function.comp_def,
    declaredVolume?_alike h]

omit doc in
theorem mountedVolumes_alike {volumes : Block}
    (hsource : ∀ l ∈ volumes.content, longSource? (f l) = longSource? l) :
    mountedVolumes (volumes.withLines f) = mountedVolumes volumes := by
  simp only [mountedVolumes, Block.entries_alike h, Block.content_withLines (Line.sameShape_of_alike h), List.filterMap_map,
    Function.comp_def, shortSource?, (h _).number, id_eq]
  rw [List.filterMap_congr hsource]

theorem mountLists_alike : mountLists (doc.map f) =
    (mountLists doc).map fun list => (list.1.withLines f, list.2.withLines f) := by
  simp only [mountLists, Document.blocks_map (Line.sameShape_of_alike h), List.filterMap_map, List.map_filterMap,
    Function.comp_def, Block.child?_alike h, Option.map_map]

theorem volumeUseIssues_alike (hsource : ∀ list ∈ mountLists doc, ∀ l ∈ list.2.content,
      longSource? (f l) = longSource? l) :
    volumeUseIssues (doc.map f) = volumeUseIssues doc := by
  have hname : ∀ list ∈ mountLists doc, (list.1.withLines f).name = list.1.name := by
    intro list hlist
    obtain ⟨service, hservice, hpair⟩ := List.mem_filterMap.mp hlist
    obtain ⟨volumes, -, rfl⟩ := Option.map_eq_some_iff.mp hpair
    exact Document.name_of_mem_blocks_map (Line.sameShape_of_alike h) hservice
  have hmounted : ((mountLists doc).flatMap fun list => mountedVolumes (list.2.withLines f)) =
      (mountLists doc).flatMap fun list => mountedVolumes list.2 :=
    List.flatMap_congr fun list hlist => mountedVolumes_alike h (hsource list hlist)
  have hempty : ((mountLists doc).filter fun list => list.2.entries.isEmpty).map (fun list =>
        (Finding.emptyVolumeList (list.1.withLines f).name).onLine list.2.header.number) =
      ((mountLists doc).filter fun list => list.2.entries.isEmpty).map fun list =>
        (Finding.emptyVolumeList list.1.name).onLine list.2.header.number :=
    List.map_congr_left fun list hlist => by rw [hname list (List.mem_filter.mp hlist).1]
  simp only [volumeUseIssues, declaredVolumes_alike h, mountLists_alike h, List.flatMap_map,
    List.filter_map, List.map_map, Function.comp_def, Block.entries_alike h, List.isEmpty_map,
    Block.withLines_header, (h _).number, id_eq]
  rw [hmounted, hempty]

end Check

/-- In lines that read alike the check of single lines finds the same if they show the same text
before a comment, leave the same quote open and have the colon that it points at in one place. -/
theorem Check.lineIssues_alike {m l : Line} (h : m.Alike id l)
    (htext : m.trimmed.withoutComment = l.trimmed.withoutComment)
    (hquote : m.trimmed.openQuote? = l.trimmed.openQuote?)
    (hcolon : ∀ key, gluedKey? l.trimmed.withoutComment = some key →
      colonColumn m.raw = colonColumn l.raw) :
    lineIssues m = lineIssues l := by
  have hcolons : colonIssues m = colonIssues l := by
    unfold colonIssues
    rw [htext, h.number]
    dsimp only
    split
    · next key hkey => rw [hcolon key (Option.filter_eq_some_iff.mp hkey).1]; rfl
    · rfl
  have hcontent : contentIssues m = contentIssues l := by
    rw [contentIssues, quoteIssues, sectionIssues, dashIssues, hcolons, htext, hquote, h.number,
      h.role, contentIssues, quoteIssues, sectionIssues, dashIssues]
    rfl
  unfold lineIssues
  rw [h.isBlank]
  cases hblank : l.isBlank with
  | true => rfl
  | false =>
    rw [marginFinding?, h.hasMixedMargin hblank, h.hasTabMargin hblank, h.isComment, h.inScalar,
      h.indent hblank, hcontent, h.number, marginFinding?]
    rfl

/-- Every pass finds the same in lines that read alike, if the check of each line does and, for the
pass over volumes, no source of a long mount comes or goes. -/
theorem Pass.run_alike {f : Line → Line} (h : ∀ l, (f l).Alike id l) {doc : Document}
    (hline : ∀ l, Check.lineIssues (f l) = Check.lineIssues l) (p : Pass)
    (hsource : p = .volumeRefs → ∀ list ∈ Check.mountLists doc, ∀ l ∈ list.2.content,
      Check.longSource? (f l) = Check.longSource? l) :
    p.run (doc.map f) = p.run doc := by
  cases p with
  | yamlSyntax => exact congrArg Except.ok (Check.syntaxIssues_alike h doc hline)
  | structural => exact Check.structureIssues_alike h doc
  | bestPractices => exact congrArg Except.ok (Check.bestPracticeIssues_alike h doc)
  | volumeRefs => exact congrArg Except.ok (Check.volumeUseIssues_alike h doc (hsource rfl))

/-- A report is made of what the passes find and of which of them fail. -/
theorem validate_eq_of_run_eq {t u : Text}
    (h : ∀ p : Pass, p.run (Document.ofText t) = p.run (Document.ofText u)) :
    validate t = validate u := by
  have hpass : Pass.contribution [] (Document.ofText t) =
      Pass.contribution [] (Document.ofText u) := by
    funext p
    rw [Pass.contribution, h p, Pass.contribution]
  rw [validate, validateWithout, hpass]
  rfl

end ComposeLint
