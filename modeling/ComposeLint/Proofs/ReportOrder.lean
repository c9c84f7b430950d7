import ComposeLint.Validation
import Mathlib

/-! # The order of a report

A report is what the passes contribute, sorted. Issues are compared by rank, and ranks are a linear
order in which no line is later than every line (`Issue.notAfter_iff`), so the laws of a stable
sort hold: nothing is lost or made up, ranks ascend, and issues of one rank stay as they were
found. A pass that fails costs its own issues only (`Pass.emits_contribution`). -/

namespace ComposeLint

namespace Issue

/-- Severity first, then the line; no line at all comes after all lines. -/
def rank (i : Issue) : ℕ ×ₗ WithTop ℤ := toLex (i.priority, i.line?.elim ⊤ WithTop.some)

theorem notAfter_iff {a b : Issue} : a.notAfter b = true ↔ a.rank ≤ b.rank := by
  rw [rank, rank, Prod.Lex.toLex_le_toLex, notAfter]
  cases a.line? with
  | none => cases b.line? <;> simp
  | some m => cases b.line? <;> simp

theorem notAfter_trans (a b c : Issue) (hab : a.notAfter b = true) (hbc : b.notAfter c = true) :
    a.notAfter c = true :=
  notAfter_iff.mpr ((notAfter_iff.mp hab).trans (notAfter_iff.mp hbc))

theorem notAfter_total (a b : Issue) : (a.notAfter b || b.notAfter a) = true := by
  rw [Bool.or_eq_true, notAfter_iff, notAfter_iff]
  exact le_total a.rank b.rank

end Issue

namespace Report

variable (issues : List Issue)

theorem perm_ofIssues : (ofIssues issues).issues.Perm issues := List.mergeSort_perm issues _

theorem pairwise_ofIssues : (ofIssues issues).issues.Pairwise fun a b => a.rank ≤ b.rank :=
  (List.pairwise_mergeSort Issue.notAfter_trans Issue.notAfter_total issues).imp
    Issue.notAfter_iff.mp

/-- Issues of one rank stay in the order in which they were found. -/
theorem filter_rank_ofIssues (rank : ℕ ×ₗ WithTop ℤ) :
    (ofIssues issues).issues.filter (·.rank = rank) = issues.filter (·.rank = rank) := by
  have hequal : (issues.filter (·.rank = rank)).Pairwise fun a b => a.notAfter b = true := by
    rw [List.pairwise_filter]
    refine List.pairwise_of_forall fun a b ha hb => Issue.notAfter_iff.mpr ?_
    rw [of_decide_eq_true ha, of_decide_eq_true hb]
  have hkept : (issues.filter (·.rank = rank)).Sublist (ofIssues issues).issues :=
    List.sublist_mergeSort Issue.notAfter_trans Issue.notAfter_total hequal List.filter_sublist
  have hfilter := hkept.filter (·.rank = rank)
  rw [List.filter_filter] at hfilter
  simp only [Bool.and_self] at hfilter
  exact (hfilter.eq_of_length ((perm_ofIssues issues).filter _).length_eq.symm).symm

/-- Sorting what is sorted changes nothing. -/
theorem ofIssues_issues : ofIssues (ofIssues issues).issues = ofIssues issues :=
  congrArg Report.mk <| List.mergeSort_of_pairwise <|
    (pairwise_ofIssues issues).imp Issue.notAfter_iff.mpr

theorem hasErrors_ofIssues :
    (ofIssues issues).hasErrors = true ↔ ∃ i ∈ issues, i.severity = .error := by
  simp only [hasErrors, List.any_eq_true, (perm_ofIssues issues).mem_iff, beq_iff_eq]

theorem hasWarnings_ofIssues :
    (ofIssues issues).hasWarnings = true ↔ ∃ i ∈ issues, i.severity = .warning := by
  simp only [hasWarnings, List.any_eq_true, (perm_ofIssues issues).mem_iff, beq_iff_eq]

/-- Every issue is counted under exactly one severity. -/
theorem count_add_count_add_count (r : Report) :
    r.count .error + r.count .warning + r.count .info = r.issues.length := by
  unfold count
  induction r.issues with
  | nil => rfl
  | cons i rest ih =>
    simp only [List.countP_cons, List.length_cons, ← ih]
    cases i.severity <;> simp <;> omega

end Report

namespace Pass

/-- What a pass puts into a report while some passes are broken: all that it finds or, if it is
broken or fails, the one issue that names it. -/
inductive Emits (broken : List Pass) (doc : Document) (p : Pass) : List Issue → Prop
  | found {issues : List Issue} (works : p ∉ broken) (run : p.run doc = .ok issues) :
    Emits broken doc p issues
  | broken (fails : p ∈ broken) : Emits broken doc p [p.failure]
  | failed {fault : Integer.Fault} (run : p.run doc = .error fault) : Emits broken doc p [p.failure]

theorem emits_contribution (broken : List Pass) (doc : Document) (p : Pass) :
    p.Emits broken doc (p.contribution broken doc) := by
  unfold contribution
  split
  · next h => exact .broken (by simpa using h)
  · next h =>
    split
    · next hrun => exact .found (by simpa using h) hrun
    · next hrun => exact .failed hrun

/-- The issue for a failed pass is an error without a line that names the pass. -/
theorem failure_eq (p : Pass) : p.failure =
    { severity := .error
      code := .validatorCheckFailed
      message := "Internal error while running ".toList ++ p.name ++ " check.".toList
      place := { line? := none, endLine? := none, column? := none }
      suggestion? := none } := by
  cases p <;> rfl

end Pass

/-- **The order of a report.** Whichever passes are broken, the issues of a report are those that
the passes emit one after the other, put in ascending order of rank with those of one rank as they
were emitted. The summary of the report is that of these issues, and a second ordering changes
nothing. -/
theorem report_orders_emissions (broken : List Pass) (text : Text) :
    ∃ parts, List.Forall₂ (Pass.Emits broken (Document.ofText text)) Pass.all parts ∧
      (∀ p : Pass, p.failure =
        { severity := .error
          code := .validatorCheckFailed
          message := "Internal error while running ".toList ++ p.name ++ " check.".toList
          place := { line? := none, endLine? := none, column? := none }
          suggestion? := none }) ∧
      let emitted := parts.flatten
      let report := validateWithout broken text
      report.issues.Perm emitted ∧
        report.issues.Pairwise (fun a b => a.rank ≤ b.rank) ∧
        (∀ rank, report.issues.filter (·.rank = rank) = emitted.filter (·.rank = rank)) ∧
        report.isValid = !report.hasErrors ∧
        (report.hasErrors = true ↔ ∃ i ∈ emitted, i.severity = .error) ∧
        (report.hasWarnings = true ↔ ∃ i ∈ emitted, i.severity = .warning) ∧
        report.count .error + report.count .warning + report.count .info = emitted.length ∧
        Report.ofIssues report.issues = report := by
  let doc := Document.ofText text
  refine ⟨Pass.all.map (Pass.contribution broken doc), ?_, Pass.failure_eq, ?_⟩
  · rw [List.forall₂_map_right_iff, List.forall₂_same]
    exact fun p _ => p.emits_contribution broken doc
  · intro emitted report
    have hreport : report = Report.ofIssues emitted := by
      simp only [report, emitted, validateWithout, List.flatMap_def, doc]
    have hperm : report.issues.Perm emitted := hreport ▸ Report.perm_ofIssues emitted
    rw [hreport] at hperm ⊢
    exact ⟨hperm, Report.pairwise_ofIssues emitted, Report.filter_rank_ofIssues emitted, rfl,
      Report.hasErrors_ofIssues emitted, Report.hasWarnings_ofIssues emitted,
      (Report.count_add_count_add_count _).trans hperm.length_eq, Report.ofIssues_issues emitted⟩

end ComposeLint
