import ComposeLint.Proofs.Check.Places
import ComposeLint.Validation

/-! # Which check reports which codes, and where

Each check words findings of its own and no others, at lines that it has read. So the code of an
issue tells where it comes from, its place is one of the document (`Pass.exists_origin`), and
whether a report has a code is settled by one pass (`has_validate_iff`). -/

namespace ComposeLint

/-- The part of validation that a code belongs to. -/
inductive Origin
  | line
  | servicesSection
  | placement
  | service
  | practice
  | volumeUse
  | pipeline
deriving DecidableEq, Repr

def Code.origin : Code → Origin
  | .yamlNoTabs | .yamlMixedIndentation | .yamlIndentation | .yamlUnbalancedQuotes
  | .yamlColonSpacing | .yamlMissingColon | .yamlMultipleSections | .yamlListItemSpacing
  | .yamlDuplicateKey => .line
  | .composeMissingServices | .composeEmptyServices => .servicesSection
  | .composeMisplacedServices | .composeMisplacedNetworks | .composeMisplacedVolumes => .placement
  | .serviceMissingImageBuild | .serviceEmptyImage | .serviceInvalidImageFormat
  | .serviceDoubleColonImage | .serviceMissingRestart | .serviceMissingVolumes
  | .serviceExposedNoPorts | .serviceManyEnvVars | .servicePrivilegedMode | .serviceHostNetwork
  | .serviceDuplicatePort | .serviceCommonPort | .volumeInvalidComma | .volumeTrailingColon
  | .volumeLeadingColon | .volumeTooManyParts | .volumeEmptySegment | .volumeRelativeContainerPath
  | .volumeMissingContainerPath => .service
  | .composeMissingNetworks | .composeMissingVolumes | .composeHardcodedEnv | .composeLatestTag
  | .composeMissingHealthcheck => .practice
  | .composeUnusedVolume | .composeUndefinedVolume | .serviceEmptyVolumes => .volumeUse
  | .validatorCheckFailed => .pipeline

/-- The pass that a part of validation is done in. -/
def Origin.pass? : Origin → Option Pass
  | .line => some .yamlSyntax
  | .servicesSection | .placement | .service => some .structural
  | .practice => some .bestPractices
  | .volumeUse => some .volumeRefs
  | .pipeline => none

/-- A finding of this origin, and one that can be written. -/
def Finding.IsOf (origin : Origin) (f : Finding) : Prop :=
  f.code.origin = origin ∧ f.isWritable = true

/-- An issue that words a finding of this origin, at a place of the document where it may stand. -/
def Issue.IsFrom (origin : Origin) (doc : Document) (i : Issue) : Prop :=
  ∃ f : Finding, ∃ place, f.IsOf origin ∧ f.StandsIn doc place ∧ i = f.issue place

section

variable {origin : Origin} {doc : Document} {i : Issue}

namespace Finding

theorem isFrom_issue (f : Finding) {place : Place} (hplace : f.StandsIn doc place)
    (hf : f.IsOf origin) : (f.issue place).IsFrom origin doc :=
  ⟨f, place, hf, hplace, rfl⟩

theorem isFrom_onLine (f : Finding) {l : Line} (hl : l ∈ doc) (hf : f.IsOf origin) :
    (f.onLine l.number).IsFrom origin doc := f.isFrom_issue (.line f hl) hf

theorem isFrom_onNumber (f : Finding) {n : Int} (hn : doc.HasNumber n)
    (hf : f.IsOf origin) : (f.onLine n).IsFrom origin doc := by
  obtain ⟨l, hl, rfl⟩ := hn
  exact f.isFrom_onLine hl hf

theorem isFrom_counted (f : Finding) {n : Int} (hn : doc ≠ [] → 1 ≤ n ∧ n ≤ doc.length)
    (hf : f.IsOf origin) : (f.onLine n).IsFrom origin doc :=
  f.isFrom_issue (.counted f hn) hf

theorem isFrom_onHeader (f : Finding) {name : Text} {start : Nat}
    (h : doc.findSection? name = some start) (hf : f.IsOf origin) :
    (f.onLine (start + 1)).IsFrom origin doc := by
  have hlt := Document.lt_length_of_findSection? h
  exact f.isFrom_counted (fun _ => by omega) hf

end Finding

namespace Issue

theorem IsFrom.code_origin (h : i.IsFrom origin doc) : i.code.origin = origin := by
  obtain ⟨f, place, hf, -, rfl⟩ := h
  exact hf.1

/-- The strict filling of the catalog gives the issue, so no place of its wording was left open. -/
theorem IsFrom.exists_make (h : i.IsFrom origin doc) :
    ∃ f : Finding, Issue.make f.code f.arguments i.place = .ok i := by
  obtain ⟨f, place, hf, -, rfl⟩ := h
  exact ⟨f, Finding.make_eq hf.2 place⟩

theorem isFrom_of_mem_map_onLine {findings : List Finding} {n : Int}
    (h : i ∈ findings.map (·.onLine n)) (hn : doc.HasNumber n)
    (hf : ∀ f ∈ findings, f.IsOf origin) : i.IsFrom origin doc := by
  obtain ⟨f, hmem, rfl⟩ := List.mem_map.mp h
  exact f.isFrom_onNumber hn (hf f hmem)

end Issue

end

namespace Check

variable {doc : Document} {i : Issue} {f : Finding}

/-! ## Lines -/

section Lines

variable {l : Line} (hl : l ∈ doc)

theorem isOf_of_marginFinding? (h : marginFinding? l = some f) : f.IsOf .line := by
  grind [marginFinding?, Finding.IsOf, Finding.code, Code.origin, Finding.isWritable, Finding.given]

include hl

theorem isFrom_of_mem_quoteIssues (h : i ∈ quoteIssues l) : i.IsFrom .line doc := by
  obtain ⟨quote, -, rfl⟩ := List.mem_map.mp h
  exact Finding.isFrom_onLine _ hl ⟨rfl, rfl⟩

theorem isFrom_of_mem_sectionIssues (h : i ∈ sectionIssues l) : i.IsFrom .line doc := by
  unfold sectionIssues at h
  dsimp only at h
  split at h
  · obtain rfl := List.mem_singleton.mp h
    exact Finding.isFrom_onLine _ hl ⟨rfl, rfl⟩
  · cases h

theorem isFrom_of_mem_dashIssues (h : i ∈ dashIssues l) : i.IsFrom .line doc := by
  unfold dashIssues at h
  dsimp only at h
  split at h
  · split at h
    · cases h
    · obtain rfl := List.mem_singleton.mp h
      exact Finding.isFrom_onLine _ hl ⟨rfl, rfl⟩
  · cases h

theorem isFrom_of_mem_colonIssues (h : i ∈ colonIssues l) : i.IsFrom .line doc := by
  unfold colonIssues at h
  dsimp only at h
  split at h
  · next key hkey =>
    obtain rfl := List.mem_singleton.mp h
    exact Finding.isFrom_issue _ (.colon hl (Option.filter_eq_some_iff.mp hkey).1) ⟨rfl, rfl⟩
  · split at h
    · obtain rfl := List.mem_singleton.mp h
      exact Finding.isFrom_onLine _ hl ⟨rfl, rfl⟩
    · cases h

theorem isFrom_of_mem_contentIssues (h : i ∈ contentIssues l) : i.IsFrom .line doc := by
  rcases List.mem_append.mp h with h | h
  · rcases List.mem_append.mp h with h | h
    · exact isFrom_of_mem_quoteIssues hl h
    · exact isFrom_of_mem_sectionIssues hl h
  · split at h
    · exact isFrom_of_mem_dashIssues hl h
    · exact isFrom_of_mem_colonIssues hl h
    · cases h

theorem isFrom_of_mem_lineIssues (h : i ∈ lineIssues l) : i.IsFrom .line doc := by
  unfold lineIssues at h
  split at h
  · cases h
  · rcases List.mem_append.mp h with h | h
    · exact Issue.isFrom_of_mem_map_onLine h ⟨l, hl, rfl⟩ fun f hf =>
        isOf_of_marginFinding? (Option.mem_toList.mp hf)
    · split at h
      · cases h
      · exact isFrom_of_mem_contentIssues hl h

end Lines

theorem isFrom_of_mem_duplicateKeysFrom {lines : List Line} (hlines : ∀ l ∈ lines, l ∈ doc) :
    ∀ {levels : List KeyLevel}, i ∈ duplicateKeysFrom levels lines → i.IsFrom .line doc := by
  induction lines with
  | nil => intro levels h; cases h
  | cons l rest ih =>
    have hrest := @ih fun m hm => hlines m (List.mem_cons_of_mem l hm)
    intro levels h
    unfold duplicateKeysFrom at h
    split at h
    · exact hrest h
    · dsimp only at h
      split at h
      · exact hrest h
      · split at h
        · rcases List.mem_cons.mp h with rfl | h
          · exact Finding.isFrom_onLine _ (hlines l List.mem_cons_self) ⟨rfl, rfl⟩
          · exact hrest h
        · exact hrest h

theorem isFrom_of_mem_syntaxIssues (h : i ∈ syntaxIssues doc) : i.IsFrom .line doc := by
  rcases List.mem_append.mp h with h | h
  · obtain ⟨l, hl, h⟩ := List.mem_flatMap.mp h
    exact isFrom_of_mem_lineIssues hl h
  · exact isFrom_of_mem_duplicateKeysFrom (fun _ => id) h

/-! ## Services -/

section Services

variable {service : Block} {issues : List Issue}

theorem isOf_of_imageFault? {name image : Text} (h : imageFault? name image = some f) :
    f.IsOf .service := by
  grind [imageFault?, Finding.IsOf, Finding.code, Code.origin, Finding.isWritable, Finding.given,
    Argument.isWritable]

theorem isOf_of_mountPartsFault? {mount source container : Text} {mode : List Text}
    (h : mountPartsFault? mount source container mode = some f) : f.IsOf .service := by
  grind [mountPartsFault?, Finding.IsOf, Finding.code, Code.origin, Finding.isWritable, Finding.given,
    Argument.isWritable]

theorem isOf_of_mountFault? {mount : Text} (h : mountFault? mount = some f) : f.IsOf .service := by
  unfold mountFault? at h
  split at h
  · exact isOf_of_mountPartsFault? h
  · split at h
    · cases h
    · obtain rfl := Option.some.inj h
      exact ⟨rfl, rfl⟩

variable (hservice : service.IsIn doc)
include hservice

theorem isFrom_of_mem_imageIssues (h : i ∈ imageIssues service) : i.IsFrom .service doc := by
  unfold imageIssues at h
  split at h
  · next image himage =>
    exact Issue.isFrom_of_mem_map_onLine h ⟨_, (hservice.child himage).header_mem, rfl⟩ fun f hf =>
      isOf_of_imageFault? (Option.mem_toList.mp hf)
  · split at h
    · cases h
    · obtain rfl := List.mem_singleton.mp h
      exact Finding.isFrom_onLine _ hservice.header_mem ⟨rfl, rfl⟩

theorem isFrom_of_mem_restartIssues (h : i ∈ restartIssues service) : i.IsFrom .service doc := by
  unfold restartIssues at h
  split at h
  · cases h
  · obtain rfl := List.mem_singleton.mp h
    exact Finding.isFrom_onLine _ hservice.header_mem ⟨rfl, rfl⟩

theorem isFrom_of_mem_volumeIssues (h : i ∈ volumeIssues service) : i.IsFrom .service doc := by
  unfold volumeIssues at h
  split at h
  · next volumes hvolumes =>
    obtain ⟨e, he, h⟩ := List.mem_flatMap.mp h
    dsimp only at h
    split at h
    · cases h
    · exact Issue.isFrom_of_mem_map_onLine h ⟨_, (hservice.child hvolumes).entry_mem he, rfl⟩
        fun f hf => isOf_of_mountFault? (Option.mem_toList.mp hf)
  · obtain rfl := List.mem_singleton.mp h
    exact Finding.isFrom_onLine _ hservice.header_mem ⟨rfl, rfl⟩

theorem isFrom_of_mem_childIssues {origin : Origin} {key : String} {reason : Block → Bool}
    (h : i ∈ childIssues service key reason f) (hf : f.IsOf origin) :
    i.IsFrom origin doc := by
  unfold childIssues at h
  split at h
  · next child hchild =>
    split at h
    · obtain rfl := List.mem_singleton.mp h
      exact f.isFrom_onLine (hservice.child hchild).header_mem hf
    · cases h
  · cases h

theorem isFrom_of_mem_environmentIssues (h : i ∈ environmentIssues service) :
    i.IsFrom .service doc := by
  unfold environmentIssues at h
  split at h
  · next environment henvironment =>
    dsimp only at h
    split at h
    · obtain rfl := List.mem_singleton.mp h
      exact Finding.isFrom_onLine _ (hservice.child henvironment).header_mem ⟨rfl, rfl⟩
    · cases h
  · cases h

omit hservice in
theorem isFrom_of_mem_portIssuesFrom {name : Text} {ports : List (Int × HostPort)}
    (hports : ∀ p ∈ ports, doc.HasNumber p.1 ∧ Integer.isWritable p.2.port = true) :
    ∀ {used : List HostPort}, i ∈ portIssuesFrom name used ports → i.IsFrom .service doc := by
  induction ports with
  | nil => intro used h; cases h
  | cons taken rest ih =>
    obtain ⟨line, port⟩ := taken
    intro used h
    rcases List.mem_append.mp h with h | h
    · obtain ⟨hline, hport⟩ := hports _ List.mem_cons_self
      refine Issue.isFrom_of_mem_map_onLine h hline fun f hf => ?_
      rcases List.mem_append.mp hf with hf | hf
      · split at hf
        · obtain rfl := List.mem_singleton.mp hf
          exact ⟨rfl, by simp [Finding.isWritable, Finding.given, Argument.isWritable, hport]⟩
        · cases hf
      · obtain ⟨usage, -, rfl⟩ := List.mem_map.mp hf
        exact ⟨rfl, by simp [Finding.isWritable, Finding.given, Argument.isWritable, hport]⟩
    · exact ih (fun p hp => hports p (List.mem_cons_of_mem _ hp)) h

theorem isFrom_of_mem_portIssues (hok : portIssues service = .ok issues) (h : i ∈ issues) :
    i.IsFrom .service doc := by
  unfold portIssues at hok
  split at hok
  · next ports hports =>
    cases htaken : hostPorts ports with
    | error fault => rw [htaken] at hok; cases hok
    | ok taken =>
      rw [htaken] at hok
      obtain rfl := Except.ok.inj hok
      refine isFrom_of_mem_portIssuesFrom (fun p hp => ?_) h
      obtain ⟨e, he, hline, hread⟩ := exists_entry_of_mem_hostPorts htaken hp
      exact ⟨⟨e.1, (hservice.child hports).entry_mem he, hline⟩, HostPort.isWritable_port hread⟩
  · obtain rfl : [] = issues := Except.ok.inj hok
    cases h

theorem isFrom_of_mem_serviceIssues (hok : serviceIssues service = .ok issues) (h : i ∈ issues) :
    i.IsFrom .service doc := by
  unfold serviceIssues at hok
  cases hports : portIssues service with
  | error fault => rw [hports] at hok; cases hok
  | ok ports =>
    rw [hports] at hok
    obtain rfl := Except.ok.inj hok
    simp only [List.mem_append] at h
    rcases h with ((((((h | h) | h) | h) | h) | h) | h) | h
    · exact isFrom_of_mem_imageIssues hservice h
    · exact isFrom_of_mem_restartIssues hservice h
    · exact isFrom_of_mem_volumeIssues hservice h
    · exact isFrom_of_mem_childIssues hservice h ⟨rfl, rfl⟩
    · exact isFrom_of_mem_environmentIssues hservice h
    · exact isFrom_of_mem_childIssues hservice h ⟨rfl, rfl⟩
    · exact isFrom_of_mem_childIssues hservice h ⟨rfl, rfl⟩
    · exact isFrom_of_mem_portIssues hservice hports h

end Services

/-! ## Documents -/

section Documents

variable {issues : List Issue}

theorem isOf_of_misplacement? {key : Text} {keys? : Option (List Text)}
    (h : misplacement? key = some (f, keys?)) : f.IsOf .placement := by
  grind [misplacement?, Finding.IsOf, Finding.code, Code.origin, Finding.isWritable, Finding.given]

/-- Only what needs the keys of a definition is reported with its lines. -/
theorem eq_of_misplacement? {key : Text} {keys : List Text}
    (h : misplacement? key = some (f, some keys)) :
    f = .misplacedNetworks ∨ f = .misplacedVolumes := by
  grind [misplacement?]

theorem isFrom_of_mem_placementIssues (h : i ∈ placementIssues doc) : i.IsFrom .placement doc := by
  obtain ⟨b, hb, h⟩ := List.mem_filterMap.mp h
  have hin : b.IsIn doc := Block.isIn_of_mem_blocksAt Block.owned_sublist hb
  obtain ⟨key, -, h⟩ := Option.bind_eq_some_iff.mp h
  obtain ⟨⟨finding, keys?⟩, hfinding, h⟩ := Option.bind_eq_some_iff.mp h
  have horigin := isOf_of_misplacement? hfinding
  dsimp only at h
  split at h
  · obtain rfl := Option.some.inj h
    exact finding.isFrom_onLine hin.header_mem horigin
  · split at h
    · obtain rfl := Option.some.inj h
      exact finding.isFrom_issue (.range (eq_of_misplacement? hfinding) hin) horigin
    · cases h

/-- Past the check of its services the structure gives only what is said of the section. -/
theorem isFrom_of_mem_structureIssues (hok : structureIssues doc = .ok issues) (h : i ∈ issues) :
    i.IsFrom .placement doc ∨ i.IsFrom .servicesSection doc ∨ i.IsFrom .service doc := by
  cases hsection : doc.section? EntryKind.service.sectionName with
  | none =>
    rw [structureIssues_of_none hsection] at hok
    obtain rfl := Except.ok.inj hok
    rcases List.mem_append.mp h with h | h
    · exact .inl (isFrom_of_mem_placementIssues h)
    · obtain rfl := List.mem_singleton.mp h
      have hcounted (hne : doc ≠ []) : (1 : Int) ≤ 1 ∧ 1 ≤ (doc.length : Int) :=
        ⟨Int.le_refl 1, Document.one_le_length hne⟩
      exact .inr (.inl (Finding.isFrom_counted _ hcounted ⟨rfl, rfl⟩))
  | some s =>
    rw [structureIssues_of_some hsection] at hok
    cases heach : (doc.blocks .service).mapM serviceIssues with
    | error fault => rw [heach] at hok; cases hok
    | ok each =>
      rw [heach] at hok
      obtain rfl := Except.ok.inj hok
      simp only [List.mem_append] at h
      rcases h with (h | h) | h
      · exact .inl (isFrom_of_mem_placementIssues h)
      · split at h
        · obtain rfl := List.mem_singleton.mp h
          obtain ⟨start, hstart, rfl⟩ := Option.map_eq_some_iff.mp hsection
          exact .inr (.inl (Finding.isFrom_onHeader _ hstart ⟨rfl, rfl⟩))
        · cases h
      · obtain ⟨found, hfound, h⟩ := List.mem_flatten.mp h
        obtain ⟨service, hmem, hservice⟩ := exists_of_mem_mapM heach hfound
        exact .inr (.inr (isFrom_of_mem_serviceIssues (Document.isIn_of_mem_blocks hmem) hservice h))

theorem isFrom_of_mem_missingSectionIssues {kind : EntryKind} (hf : f.IsOf .practice)
    (h : i ∈ missingSectionIssues doc kind f) : i.IsFrom .practice doc := by
  unfold missingSectionIssues at h
  split at h
  · obtain rfl := List.mem_singleton.mp h
    exact f.isFrom_counted (fun hne => ⟨Document.one_le_length hne, Int.le_refl _⟩) hf
  · cases h

theorem mem_of_mem_linesWithKey {key : String} {l : Line} (h : l ∈ linesWithKey doc key) :
    l ∈ doc := (List.mem_filter.mp h).1

theorem isFrom_of_mem_inlineEnvironmentIssues (h : i ∈ inlineEnvironmentIssues doc) :
    i.IsFrom .practice doc := by
  unfold inlineEnvironmentIssues at h
  split at h
  · next first rest hlines =>
    split at h
    · obtain rfl := List.mem_singleton.mp h
      have hfirst : first ∈ linesWithKey doc "environment" := hlines ▸ List.mem_cons_self
      exact Finding.isFrom_onLine _ (mem_of_mem_linesWithKey hfirst) ⟨rfl, rfl⟩
    · cases h
  · cases h

theorem isFrom_of_mem_latestTagIssues (h : i ∈ latestTagIssues doc) : i.IsFrom .practice doc := by
  obtain ⟨l, hl, rfl⟩ := List.mem_map.mp h
  exact Finding.isFrom_onLine _ (mem_of_mem_linesWithKey (List.mem_filter.mp hl).1) ⟨rfl, rfl⟩

theorem isFrom_of_mem_healthcheckIssues (h : i ∈ healthcheckIssues doc) :
    i.IsFrom .practice doc := by
  unfold healthcheckIssues at h
  split at h
  · next start hstart =>
    split at h
    · obtain rfl := List.mem_singleton.mp h
      exact Finding.isFrom_onHeader _ hstart ⟨rfl, rfl⟩
    · cases h
  · cases h

theorem isFrom_of_mem_bestPracticeIssues (h : i ∈ bestPracticeIssues doc) :
    i.IsFrom .practice doc := by
  unfold bestPracticeIssues at h
  simp only [List.mem_append] at h
  rcases h with (((h | h) | h) | h) | h
  · exact isFrom_of_mem_missingSectionIssues ⟨rfl, rfl⟩ h
  · exact isFrom_of_mem_missingSectionIssues ⟨rfl, rfl⟩ h
  · exact isFrom_of_mem_inlineEnvironmentIssues h
  · exact isFrom_of_mem_latestTagIssues h
  · exact isFrom_of_mem_healthcheckIssues h

theorem isFrom_of_mem_volumeIssuesOf {names others : List VolumeAt} {finding : Text → Finding}
    (hnames : ∀ v ∈ names, doc.HasNumber v.2)
    (hf : ∀ name, (finding name).IsOf .volumeUse)
    (h : i ∈ volumeIssuesOf names others finding) : i.IsFrom .volumeUse doc := by
  obtain ⟨v, hv, rfl⟩ := List.mem_map.mp h
  exact (finding v.1).isFrom_onNumber (hnames v (List.mem_filter.mp hv).1) (hf v.1)

theorem isFrom_of_mem_volumeUseIssues (h : i ∈ volumeUseIssues doc) :
    i.IsFrom .volumeUse doc := by
  have hmounted : ∀ v ∈ (mountLists doc).flatMap fun owned => mountedVolumes owned.2,
      doc.HasNumber v.2 := by
    intro v hv
    obtain ⟨⟨service, volumes⟩, hlist, hv⟩ := List.mem_flatMap.mp hv
    exact hasNumber_of_mem_mountedVolumes (isIn_of_mem_mountLists hlist) hv
  unfold volumeUseIssues at h
  simp only [List.mem_append] at h
  rcases h with (h | h) | h
  · obtain ⟨⟨service, volumes⟩, hlist, rfl⟩ := List.mem_map.mp h
    exact Finding.isFrom_onLine _
      (isIn_of_mem_mountLists (List.mem_filter.mp hlist).1).header_mem ⟨rfl, rfl⟩
  · exact isFrom_of_mem_volumeIssuesOf (fun _ => hasNumber_of_mem_declaredVolumes)
      (fun _ => ⟨rfl, rfl⟩) h
  · exact isFrom_of_mem_volumeIssuesOf hmounted (fun _ => ⟨rfl, rfl⟩) h

end Documents

end Check

/-! ## Passes -/

/-- What a pass finds is worded, has a code of this pass and stands in the document. -/
theorem Pass.exists_origin {p : Pass} {doc : Document} {issues : List Issue}
    (hok : p.run doc = .ok issues) {i : Issue} (h : i ∈ issues) :
    ∃ origin : Origin, origin.pass? = some p ∧ i.IsFrom origin doc := by
  cases p with
  | yamlSyntax =>
    obtain rfl := Except.ok.inj hok
    exact ⟨.line, rfl, Check.isFrom_of_mem_syntaxIssues h⟩
  | structural =>
    rcases Check.isFrom_of_mem_structureIssues hok h with h | h | h
    · exact ⟨.placement, rfl, h⟩
    · exact ⟨.servicesSection, rfl, h⟩
    · exact ⟨.service, rfl, h⟩
  | bestPractices =>
    obtain rfl := Except.ok.inj hok
    exact ⟨.practice, rfl, Check.isFrom_of_mem_bestPracticeIssues h⟩
  | volumeRefs =>
    obtain rfl := Except.ok.inj hok
    exact ⟨.volumeUse, rfl, Check.isFrom_of_mem_volumeUseIssues h⟩

/-- Whether a report has an issue with this code. -/
def Report.Has (r : Report) (code : Code) : Prop := ∃ i ∈ r.issues, i.code = code

theorem mem_issues_validate {text : Text} {i : Issue} : i ∈ (validate text).issues ↔
    ∃ p : Pass, i ∈ p.contribution [] (Document.ofText text) := by
  rw [validate, validateWithout, Report.ofIssues, List.mem_mergeSort, List.mem_flatMap]
  exact exists_congr fun p => and_iff_right (by cases p <;> decide)

theorem Pass.contribution_eq {p : Pass} {doc : Document} : p.contribution [] doc =
    match p.run doc with
    | .ok issues => issues
    | .error _ => [p.failure] := rfl

/-- No pass reports the codes of another, not even where it fails. -/
theorem Pass.filter_contribution_eq_nil {p q : Pass} {code : Code}
    (hcode : code.origin.pass? = some q) (hne : q ≠ p) (doc : Document) :
    (p.contribution [] doc).filter (·.code == code) = [] := by
  rw [List.filter_eq_nil_iff]
  intro i hi heq
  rw [← beq_iff_eq.mp heq] at hcode
  rw [contribution_eq] at hi
  split at hi
  · next issues hok =>
    obtain ⟨origin, horigin, hfrom⟩ := exists_origin hok hi
    rw [hfrom.code_origin, horigin] at hcode
    exact hne (Option.some.inj hcode).symm
  · obtain rfl := List.mem_singleton.mp hi
    cases hcode

/-- A report has of each code as many issues as the pass of the code gives, and the same. -/
theorem perm_filter_issues_validate {text : Text} {code : Code} {p : Pass}
    (hcode : code.origin.pass? = some p) :
    ((validate text).issues.filter (·.code == code)).Perm
      ((p.contribution [] (Document.ofText text)).filter (·.code == code)) := by
  have hperm : ((validate text).issues.filter (·.code == code)).Perm
      ((Pass.all.flatMap (Pass.contribution [] (Document.ofText text))).filter
        (·.code == code)) := (List.mergeSort_perm _ _).filter _
  have hother (q : Pass) (hne : p ≠ q) := Pass.filter_contribution_eq_nil hcode hne
  rw [List.filter_flatMap, Pass.all] at hperm
  simp only [List.flatMap_cons, List.flatMap_nil, List.append_nil] at hperm
  cases p with
  | yamlSyntax =>
    simpa only [hother .structural nofun, hother .bestPractices nofun, hother .volumeRefs nofun,
      List.append_nil] using hperm
  | structural =>
    simpa only [hother .yamlSyntax nofun, hother .bestPractices nofun, hother .volumeRefs nofun,
      List.append_nil, List.nil_append] using hperm
  | bestPractices =>
    simpa only [hother .yamlSyntax nofun, hother .structural nofun, hother .volumeRefs nofun,
      List.append_nil, List.nil_append] using hperm
  | volumeRefs =>
    simpa only [hother .yamlSyntax nofun, hother .structural nofun, hother .bestPractices nofun,
      List.nil_append] using hperm

/-- A code of a pass is in the report where the pass finds it. -/
theorem has_validate_iff {text : Text} {code : Code} {p : Pass}
    (hcode : code.origin.pass? = some p) : (validate text).Has code ↔
      ∃ issues, p.run (Document.ofText text) = .ok issues ∧ ∃ i ∈ issues, i.code = code := by
  constructor
  · rintro ⟨i, hi, rfl⟩
    obtain ⟨q, hq⟩ := mem_issues_validate.mp hi
    rw [Pass.contribution_eq] at hq
    split at hq
    · next issues hok =>
      obtain ⟨origin, horigin, hfrom⟩ := Pass.exists_origin hok hq
      rw [hfrom.code_origin, horigin] at hcode
      obtain rfl := Option.some.inj hcode
      exact ⟨issues, hok, i, hq, rfl⟩
    · obtain rfl := List.mem_singleton.mp hq
      cases hcode
  · rintro ⟨issues, hok, i, hi, rfl⟩
    refine ⟨i, mem_issues_validate.mpr ⟨p, ?_⟩, rfl⟩
    rwa [Pass.contribution_eq, hok]

end ComposeLint
