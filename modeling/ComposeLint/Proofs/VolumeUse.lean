import ComposeLint.Proofs.Check.Codes
import ComposeLint.Proofs.Document.Headers

/-! # Volumes declared and volumes mounted

The stack reads the names of volumes off the headers of its entries, the check reads them off the
keys of the section. The check takes in more lines, but every header is one that it takes, with the
same name at the same line (`Check.declaredVolume?_of_isHeader`); only scalar text is passed over by
the check alone. What the check reports follows from the two lists of names that it compares. -/

namespace ComposeLint

namespace Check

/-- The check takes a header of the section for the volume that it names. -/
theorem declaredVolume?_of_isHeader {b : Block} (h : EntryKind.volume.isHeader b.header = true)
    (hfree : b.header.inScalar = false) :
    declaredVolume? b.header = some (b.name, b.header.number) := by
  obtain ⟨name, tail, htrimmed, hname, htail⟩ := EntryKind.exists_name_of_isHeader h
  have hentry := EntryKind.startsEntry_of_isHeader h
  have htoken := Text.isToken_of_isKeyName (Text.isKeyName_of_isNameOf hname)
  unfold declaredVolume?
  rw [hfree, Line.hasTabMargin_of_startsEntry hentry, if_neg (by simp)]
  rcases EntryKind.eq_of_mayEndWith htail with rfl | rfl
  · rw [List.append_nil] at htrimmed
    have hend : name.dropEndWhile (· == ':') = name := Text.dropEndWhile_eq_self fun c hc => by
      rw [beq_eq_false_iff_ne]
      rintro rfl
      exact Text.getLast?_ne_colon_of_isNameOf hname hc
    rw [Line.key?_of_trimmed hname htrimmed, Block.name_eq_of_trimmed hname (.inl htrimmed)]
    simp only [declaredVolume?.bareName?, h, htrimmed, hend, if_true]
  · rw [Line.key?_of_trimmed_colon hname htrimmed, Block.name_eq_of_trimmed hname (.inr htrimmed)]
    simp only [Line.indent_of_startsEntry hentry, Text.unquote_isToken htoken, BEq.rfl, if_true]

/-- The volumes of the stack are among those that the check takes for declared, in their order. -/
theorem names_sublist_declaredVolumes {doc : Document}
    (hfree : ∀ l ∈ doc.sectionBody EntryKind.volume.sectionName, l.inScalar = false) :
    ((doc.blocks .volume).map fun b => (b.name, b.header.number)).Sublist (declaredVolumes doc) := by
  have hheaders : ((doc.blocks .volume).map Block.header).Sublist
      (doc.sectionBody EntryKind.volume.sectionName) := by
    rw [Document.blocks, Block.map_header_blocksAt]
    exact List.filter_sublist
  have hread : ((doc.blocks .volume).map Block.header).filterMap declaredVolume? =
      (doc.blocks .volume).map fun b => (b.name, b.header.number) := by
    rw [List.filterMap_map, ← List.filterMap_eq_map]
    refine List.filterMap_congr fun b hb => ?_
    obtain ⟨before, following, hbody, hheader, -⟩ := Block.exists_of_mem_blocksAt hb
    exact declaredVolume?_of_isHeader hheader (hfree _ (by simp [hbody]))
  rw [← hread]
  exact hheaders.filterMap _

/-! ## Names that are not on the other list -/

/-- The volumes that the services of a document mount, one for each place that mounts it. -/
def mountedByServices (doc : Document) : List VolumeAt :=
  (mountLists doc).flatMap fun owned => mountedVolumes owned.2

/-- Those places whose name stands at none of the others. -/
def unmatched (names others : List VolumeAt) : List VolumeAt :=
  names.filter fun v => v.1 ∉ others.map Prod.fst

theorem volumeIssuesOf_eq (names others : List VolumeAt) (finding : Text → Finding) :
    volumeIssuesOf names others finding =
      (unmatched names others).map fun v => (finding v.1).onLine v.2 := by
  unfold volumeIssuesOf unmatched
  congr 1
  refine List.filter_congr fun v _ => ?_
  rw [Bool.eq_iff_iff, decide_eq_true_iff, Bool.not_eq_true', List.contains_eq_mem,
    decide_eq_false_iff_not]

theorem filter_eq_ite_of_code {issues : List Issue} {own : Code} (h : ∀ i ∈ issues, i.code = own)
    (code : Code) : issues.filter (·.code == code) = if own = code then issues else [] := by
  split
  · next heq => exact List.filter_eq_self.mpr fun i hi => by simp [h i hi, heq]
  · next hne => exact List.filter_eq_nil_iff.mpr fun i hi => by simp [h i hi, hne]

theorem code_of_mem_volumeIssuesOf {names others : List VolumeAt} (finding : Text → Finding)
    {own : Code} (hown : ∀ name, (finding name).code = own) {i : Issue}
    (hi : i ∈ volumeIssuesOf names others finding) : i.code = own := by
  obtain ⟨v, -, rfl⟩ := List.mem_map.mp hi
  exact hown v.1

/-- The issues of the check, told apart by their codes. -/
theorem filter_volumeUseIssues (doc : Document) :
    (volumeUseIssues doc).filter (·.code == .composeUnusedVolume) =
      volumeIssuesOf (declaredVolumes doc) (mountedByServices doc) .unusedVolume ∧
    (volumeUseIssues doc).filter (·.code == .composeUndefinedVolume) =
      volumeIssuesOf (mountedByServices doc) (declaredVolumes doc) .undefinedVolume := by
  let empty := ((mountLists doc).filter fun owned => owned.2.entries.isEmpty).map
    fun owned => (Finding.emptyVolumeList owned.1.name).onLine owned.2.header.number
  let unused := volumeIssuesOf (declaredVolumes doc) (mountedByServices doc) .unusedVolume
  let undefined := volumeIssuesOf (mountedByServices doc) (declaredVolumes doc) .undefinedVolume
  have hempty : ∀ i ∈ empty, i.code = .serviceEmptyVolumes := fun i hi => by
    obtain ⟨owned, -, rfl⟩ := List.mem_map.mp hi
    rfl
  have hunused : ∀ i ∈ unused, i.code = .composeUnusedVolume := fun i hi =>
    code_of_mem_volumeIssuesOf .unusedVolume (fun _ => rfl) hi
  have hundefined : ∀ i ∈ undefined, i.code = .composeUndefinedVolume := fun i hi =>
    code_of_mem_volumeIssuesOf .undefinedVolume (fun _ => rfl) hi
  have hfilter (code : Code) : (volumeUseIssues doc).filter (·.code == code) =
      (if .serviceEmptyVolumes = code then empty else []) ++
        (if .composeUnusedVolume = code then unused else []) ++
        if .composeUndefinedVolume = code then undefined else [] := by
    rw [← filter_eq_ite_of_code hempty, ← filter_eq_ite_of_code hunused,
      ← filter_eq_ite_of_code hundefined, ← List.filter_append, ← List.filter_append]
    rfl
  exact ⟨(hfilter _).trans (List.append_nil _), hfilter _⟩

end Check

namespace Finding

/-- Where a wording has nothing but a name to fill in, the name can be read off it. -/
theorem eq_of_onLine_eq {finding : Text → Finding} {start finish : Text}
    (hwording : ∀ name line, ((finding name).onLine line).message = start ++ (name ++ finish))
    {a b : Text} {m n : Int} (h : (finding a).onLine m = (finding b).onLine n) : a = b := by
  have hmessage := congrArg Issue.message h
  rw [hwording, hwording] at hmessage
  exact List.append_cancel_right (List.append_cancel_left hmessage)

theorem message_unusedVolume (name : Text) (line : Int) :
    ((unusedVolume name).onLine line).message = "Volume \"".toList ++
      (name ++ "\" is defined but not used by any service.".toList) := rfl

theorem message_undefinedVolume (name : Text) (line : Int) :
    ((undefinedVolume name).onLine line).message = "Volume \"".toList ++
      (name ++ "\" is used but not defined in the top-level volumes section.".toList) := rfl

end Finding

/-! ## Reports -/

theorem perm_unusedVolumes (text : Text) :
    let doc := Document.ofText text
    ((validate text).issues.filter (·.code == .composeUnusedVolume)).Perm
      ((Check.unmatched (Check.declaredVolumes doc) (Check.mountedByServices doc)).map
        fun v => (Finding.unusedVolume v.1).onLine v.2) := by
  intro doc
  rw [← Check.volumeIssuesOf_eq, ← (Check.filter_volumeUseIssues doc).1]
  exact perm_filter_issues_validate (p := .volumeRefs) rfl

theorem perm_undefinedVolumes (text : Text) :
    let doc := Document.ofText text
    ((validate text).issues.filter (·.code == .composeUndefinedVolume)).Perm
      ((Check.unmatched (Check.mountedByServices doc) (Check.declaredVolumes doc)).map
        fun v => (Finding.undefinedVolume v.1).onLine v.2) := by
  intro doc
  rw [← Check.volumeIssuesOf_eq, ← (Check.filter_volumeUseIssues doc).2]
  exact perm_filter_issues_validate (p := .volumeRefs) rfl

/-- A name that is reported is told by its issue, and the place by its line. -/
theorem mem_unmatched_of_unusedVolume {text name : Text} {line : Int}
    (h : (Finding.unusedVolume name).onLine line ∈ (validate text).issues) :
    let doc := Document.ofText text
    ∃ v ∈ Check.unmatched (Check.declaredVolumes doc) (Check.mountedByServices doc),
      v.1 = name := by
  intro doc
  have hmem := (perm_unusedVolumes text).mem_iff.mp (List.mem_filter.mpr ⟨h, rfl⟩)
  obtain ⟨v, hv, heq⟩ := List.mem_map.mp hmem
  exact ⟨v, hv, Finding.eq_of_onLine_eq Finding.message_unusedVolume heq⟩

theorem mem_unmatched_of_undefinedVolume {text name : Text} {line : Int}
    (h : (Finding.undefinedVolume name).onLine line ∈ (validate text).issues) :
    let doc := Document.ofText text
    ∃ v ∈ Check.unmatched (Check.mountedByServices doc) (Check.declaredVolumes doc),
      v.1 = name := by
  intro doc
  have hmem := (perm_undefinedVolumes text).mem_iff.mp (List.mem_filter.mpr ⟨h, rfl⟩)
  obtain ⟨v, hv, heq⟩ := List.mem_map.mp hmem
  exact ⟨v, hv, Finding.eq_of_onLine_eq Finding.message_undefinedVolume heq⟩

/-- **Volumes declared and volumes mounted.** Where no line of the volumes section is scalar text,
the names of the stack are declared, each at the line of its header, and none of them is reported as
undefined. Of every text the report has one issue for each declared place whose name is mounted
nowhere and one for each place that mounts a name that is declared nowhere, and no other issues of
these two codes. So no name is reported as both. -/
theorem volumeUse_agrees_with_stack {text : Text}
    (hfree : ∀ l ∈ (Document.ofText text).sectionBody EntryKind.volume.sectionName,
      l.inScalar = false) :
    let doc := Document.ofText text
    let declared := Check.declaredVolumes doc
    let mounted := Check.mountedByServices doc
    let report := (validate text).issues
    ((Stack.read text).volumes = (doc.blocks .volume).map Block.name ∧
      ((doc.blocks .volume).map fun b => (b.name, b.header.number)).Sublist declared) ∧
    (∀ name ∈ (Stack.read text).volumes, ∀ line,
      (Finding.undefinedVolume name).onLine line ∉ report) ∧
    (report.filter (·.code == .composeUnusedVolume)).Perm
      ((declared.filter fun v => v.1 ∉ mounted.map Prod.fst).map
        fun v => (Finding.unusedVolume v.1).onLine v.2) ∧
    (report.filter (·.code == .composeUndefinedVolume)).Perm
      ((mounted.filter fun v => v.1 ∉ declared.map Prod.fst).map
        fun v => (Finding.undefinedVolume v.1).onLine v.2) ∧
    ∀ name line line', (Finding.unusedVolume name).onLine line ∈ report →
      (Finding.undefinedVolume name).onLine line' ∉ report := by
  intro doc declared mounted report
  have hnames := Check.names_sublist_declaredVolumes hfree
  refine ⟨⟨rfl, hnames⟩, ?_, perm_unusedVolumes text, perm_undefinedVolumes text, ?_⟩
  · intro name hname line hmem
    obtain ⟨v, hv, rfl⟩ := mem_unmatched_of_undefinedVolume hmem
    obtain ⟨b, hb, hbname⟩ := List.mem_map.mp hname
    have hdeclared : (b.name, b.header.number) ∈ declared :=
      hnames.mem (List.mem_map.mpr ⟨b, hb, rfl⟩)
    have hfresh := of_decide_eq_true (List.mem_filter.mp hv).2
    exact hfresh (List.mem_map.mpr ⟨_, hdeclared, hbname⟩)
  · intro name line line' hunused hundefined
    obtain ⟨v, hv, rfl⟩ := mem_unmatched_of_unusedVolume hunused
    obtain ⟨w, hw, heq⟩ := mem_unmatched_of_undefinedVolume hundefined
    have hfresh := of_decide_eq_true (List.mem_filter.mp hw).2
    exact hfresh (heq ▸ List.mem_map_of_mem (List.mem_filter.mp hv).1)

/-- A volume without a colon, one that no service mounts, and one that is mounted undeclared. -/
theorem volumeUse_agrees_undeclared :
    let text : Text := ("services:\n  web:\n    volumes:\n      - data:/a\n      - logs:/b\n" ++
      "volumes:\n  data\n  spare:\n    driver: local").toList
    (∀ l ∈ (Document.ofText text).sectionBody EntryKind.volume.sectionName, l.inScalar = false) ∧
      (Stack.read text).volumes = ["data".toList, "spare".toList] ∧
      (∀ line, (Finding.undefinedVolume "data".toList).onLine line ∉ (validate text).issues) ∧
      ((validate text).issues.filter (·.code == .composeUndefinedVolume)).Perm
        [(Finding.undefinedVolume "logs".toList).onLine 5] := by
  intro text
  have hfree : ∀ l ∈ (Document.ofText text).sectionBody EntryKind.volume.sectionName,
      l.inScalar = false := by decide
  obtain ⟨-, hdefined, -, hundefined, -⟩ := volumeUse_agrees_with_stack hfree
  have hvolumes : (Stack.read text).volumes = ["data".toList, "spare".toList] := by decide
  have hlogs : Check.unmatched (Check.mountedByServices (Document.ofText text))
      (Check.declaredVolumes (Document.ofText text)) = [("logs".toList, 5)] := by decide
  refine ⟨hfree, hvolumes, hdefined _ (by simp [hvolumes]), ?_⟩
  rw [Check.unmatched] at hlogs
  rw [hlogs] at hundefined
  exact hundefined

end ComposeLint
