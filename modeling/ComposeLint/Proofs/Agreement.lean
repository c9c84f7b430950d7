import ComposeLint.Proofs.Check.Codes
import ComposeLint.Proofs.Document.Blocks
import ComposeLint.Stack.Reader

/-! # Counts, stack and report agree on what there is

The counts are taken from header lines, and each header line heads one entry of the stack. Whether
there are services at all is told three ways: the report misses their section, or finds nothing in
it, or there is one to count. A failing check of the structure has read a service, so it is among
the third (`Check.mem_structureIssues_iff`). -/

namespace ComposeLint

theorem Counts.count_eq_length (doc : Document) (kind : EntryKind) :
    ofDocument.count doc kind = (doc.blocks kind).length := by
  have hheaders : (doc.blocks kind).map Block.header =
      (doc.sectionBody kind.sectionName).filter kind.isHeader := Block.map_header_blocksAt _
  rw [ofDocument.count, List.countP_eq_length_filter, ← hheaders, List.length_map]

/-- Every header that is counted heads an entry, and every entry has one. -/
theorem Counts.ofDocument_eq (doc : Document) : ofDocument doc =
    { services := (Stack.ofDocument doc).services.length
      networks := (Stack.ofDocument doc).networks.length
      volumes := (Stack.ofDocument doc).volumes.length } := by
  simp only [ofDocument, count_eq_length, Stack.ofDocument, List.length_map]

/-- What is said about the section of services as a whole. -/
theorem Check.mem_structureIssues_iff {doc : Document} {issues : List Issue} {i : Issue}
    (hok : structureIssues doc = .ok issues) (horigin : i.code.origin = .servicesSection) :
    i ∈ issues ↔
      doc.section? EntryKind.service.sectionName = none ∧ i = Finding.missingServices.onLine 1 ∨
      ∃ s, doc.section? EntryKind.service.sectionName = some s ∧ doc.blocks .service = [] ∧
        i = Finding.emptyServices.onLine s.lineNumber := by
  have hplacement : i ∉ placementIssues doc := fun h => by
    rw [(isFrom_of_mem_placementIssues h).code_origin] at horigin
    cases horigin
  cases hsection : doc.section? EntryKind.service.sectionName with
  | none =>
    rw [structureIssues_of_none hsection] at hok
    obtain rfl := Except.ok.inj hok
    simp [hplacement]
  | some s =>
    rw [structureIssues_of_some hsection] at hok
    cases heach : (doc.blocks .service).mapM serviceIssues with
    | error fault => rw [heach] at hok; cases hok
    | ok each =>
      rw [heach] at hok
      obtain rfl := Except.ok.inj hok
      have hservices : i ∉ each.flatten := fun h => by
        obtain ⟨found, hfound, h⟩ := List.mem_flatten.mp h
        obtain ⟨service, hmem, hservice⟩ := exists_of_mem_mapM heach hfound
        have hin := Document.isIn_of_mem_blocks hmem
        rw [(isFrom_of_mem_serviceIssues hin hservice h).code_origin] at horigin
        cases horigin
      cases hblocks : doc.blocks .service with
      | nil => simp [hplacement, hservices]
      | cons b rest => simp [hplacement, hservices]

section
variable {text : Text}

theorem has_missingServices_iff : (validate text).Has .composeMissingServices ↔
    (Document.ofText text).section? EntryKind.service.sectionName = none := by
  rw [has_validate_iff (p := .structural) rfl]
  constructor
  · rintro ⟨issues, hok, i, hi, hcode⟩
    rcases (Check.mem_structureIssues_iff hok (by rw [hcode]; rfl)).mp hi with
      ⟨hsection, -⟩ | ⟨s, -, -, rfl⟩
    · exact hsection
    · cases hcode
  · intro hsection
    exact ⟨_, Check.structureIssues_of_none hsection, Finding.missingServices.onLine 1,
      by simp, rfl⟩

theorem has_emptyServices_iff : (validate text).Has .composeEmptyServices ↔
    (Document.ofText text).section? EntryKind.service.sectionName ≠ none ∧
      (Document.ofText text).blocks .service = [] := by
  rw [has_validate_iff (p := .structural) rfl]
  constructor
  · rintro ⟨issues, hok, i, hi, hcode⟩
    rcases (Check.mem_structureIssues_iff hok (by rw [hcode]; rfl)).mp hi with
      ⟨-, rfl⟩ | ⟨s, hsection, hblocks, -⟩
    · cases hcode
    · exact ⟨by simp [hsection], hblocks⟩
  · rintro ⟨hsome, hblocks⟩
    obtain ⟨s, hsection⟩ := Option.ne_none_iff_exists'.mp hsome
    have hrun := Check.structureIssues_of_some hsection
    rw [hblocks] at hrun
    exact ⟨_, hrun, Finding.emptyServices.onLine s.lineNumber, by simp, rfl⟩

end

/-- **Counts, stack and report agree.** The counts are the lengths of the lists of the stack, and of
three things exactly one holds for every text: the report misses the section of services, or it
finds that section empty, or at least one service is counted. -/
theorem counts_stack_report_agree (text : Text) :
    let counts := Counts.read text
    let stack := Stack.read text
    let report := validate text
    (counts.services = stack.services.length ∧ counts.networks = stack.networks.length ∧
      counts.volumes = stack.volumes.length) ∧
    (report.Has .composeMissingServices ∧ ¬ report.Has .composeEmptyServices ∧
        ¬ 1 ≤ counts.services ∨
      ¬ report.Has .composeMissingServices ∧ report.Has .composeEmptyServices ∧
        ¬ 1 ≤ counts.services ∨
      ¬ report.Has .composeMissingServices ∧ ¬ report.Has .composeEmptyServices ∧
        1 ≤ counts.services) := by
  intro counts stack report
  have hcounts := Counts.ofDocument_eq (Document.ofText text)
  have hservices : counts.services = ((Document.ofText text).blocks .service).length :=
    Counts.count_eq_length (Document.ofText text) .service
  refine ⟨⟨congrArg Counts.services hcounts, congrArg Counts.networks hcounts,
    congrArg Counts.volumes hcounts⟩, ?_⟩
  rw [has_missingServices_iff, has_emptyServices_iff, hservices]
  cases hsection : (Document.ofText text).section? EntryKind.service.sectionName with
  | none =>
    left
    simp [Document.blocks_of_section?_eq_none hsection]
  | some s =>
    right
    cases (Document.ofText text).blocks .service with
    | nil => left; simp
    | cons b rest => right; simp

end ComposeLint
