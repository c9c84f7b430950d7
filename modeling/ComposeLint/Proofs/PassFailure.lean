import ComposeLint.Proofs.Check.Codes
import ComposeLint.Proofs.Check.Lookups
import ComposeLint.Proofs.PortEntries

/-! # When a pass fails

Of the four passes one can fail, on one kind of input: a port entry whose host port has more digits
than are evaluated. Everything else that could go wrong on the way cannot: every search succeeds,
every wording is filled, and a numeral of digits can only be too long. A report therefore names a
failed pass once or not at all. -/

namespace ComposeLint

/-- A numeral of digits is refused for its length alone. -/
theorem PortEntry.read_host_eq_error_iff {e : PortEntry} (h : e.WellFormed) :
    (∃ fault, Integer.read e.host = .error fault) ↔ Integer.maxDigits < e.host.length := by
  rw [read_host h, ← Integer.ofDigits_eq_error_iff]
  cases Integer.ofDigits e.host <;> simp [Except.map]

/-- The failures among the issues of a pass. -/
theorem Pass.filter_contribution (p : Pass) (doc : Document) :
    (p.contribution [] doc).filter (·.code == .validatorCheckFailed) =
      match p.run doc with
      | .ok _ => []
      | .error _ => [p.failure] := by
  rw [contribution_eq]
  cases hrun : p.run doc with
  | error fault => rfl
  | ok issues =>
    rw [List.filter_eq_nil_iff]
    intro i hi hcode
    obtain ⟨origin, horigin, hfrom⟩ := exists_origin hrun hi
    rw [← hfrom.code_origin, beq_iff_eq.mp hcode] at horigin
    cases horigin

/-- Only the check of the structure puts a failure into a report. -/
theorem filter_issues_validate (text : Text) :
    (validate text).issues.filter (·.code == .validatorCheckFailed) =
      match Pass.structural.run (Document.ofText text) with
      | .ok _ => []
      | .error _ => [Pass.structural.failure] := by
  have hperm : ((validate text).issues.filter (·.code == .validatorCheckFailed)).Perm
      ((Pass.all.flatMap (Pass.contribution [] (Document.ofText text))).filter
        (·.code == .validatorCheckFailed)) := (List.mergeSort_perm _ _).filter _
  rw [List.filter_flatMap] at hperm
  simp only [Pass.filter_contribution, Pass.all, List.flatMap_cons, List.flatMap_nil] at hperm
  simp only [Pass.run, List.nil_append, List.append_nil] at hperm
  cases hrun : Check.structureIssues (Document.ofText text) with
  | ok issues =>
    rw [hrun] at hperm
    simpa [Pass.run, hrun] using hperm
  | error fault =>
    rw [hrun] at hperm
    simpa [Pass.run, hrun] using hperm

/-- **When a pass fails.** On every text all passes but that of the structure succeed: what they
search for is there, and each issue is the strict filling of its wording. The pass of the structure
fails on exactly those texts in which a service lists a port entry whose host port has more than the
evaluated number of digits. Then, and only then, the report has an issue for a failed pass: a single
one, which names the structure. -/
theorem structural_fails_iff_overlongPort (text : Text) :
    let doc := Document.ofText text
    ((∀ p : Pass, p ≠ .structural → ∃ issues, p.run doc = .ok issues) ∧ doc.LookupsSucceed ∧
      (∀ p issues, Pass.run p doc = .ok issues → ∀ i ∈ issues,
        ∃ f : Finding, Issue.make f.code f.arguments i.place = .ok i) ∧
      ∀ entry : PortEntry, entry.WellFormed →
        ((∃ fault, Integer.read entry.host = .error fault) ↔
          Integer.maxDigits < entry.host.length)) ∧
    ((∃ fault, Pass.structural.run doc = .error fault) ↔ doc.HasOverlongPort) ∧
    (doc.HasOverlongPort ∧ (validate text).issues.filter (·.code == .validatorCheckFailed) =
        [Pass.structural.failure] ∨
      ¬ doc.HasOverlongPort ∧
        (validate text).issues.filter (·.code == .validatorCheckFailed) = []) := by
  intro doc
  have hfails : (∃ fault, Pass.structural.run doc = .error fault) ↔ doc.HasOverlongPort :=
    Check.structureIssues_eq_error_iff
  refine ⟨⟨?_, Document.lookupsSucceed text, ?_, fun _ => PortEntry.read_host_eq_error_iff⟩,
    hfails, ?_⟩
  · intro p hp
    cases p with
    | structural => exact absurd rfl hp
    | yamlSyntax | bestPractices | volumeRefs => exact ⟨_, rfl⟩
  · intro p issues hrun i hi
    obtain ⟨origin, -, hfrom⟩ := Pass.exists_origin hrun hi
    exact hfrom.exists_make
  · rw [filter_issues_validate, ← hfails]
    cases hrun : Pass.structural.run doc with
    | ok issues => right; simp
    | error fault => left; simp

end ComposeLint
