import ComposeLint.Analysis
import ComposeLint.Proofs.Check.Lookups
import ComposeLint.Proofs.Document.Lines
import ComposeLint.Proofs.Line.Reading
import ComposeLint.Proofs.Moved.Document

/-! # The ends of lines carry no meaning

Trimming every line of a document at its end is a move that keeps all numbers. Each pass reports
the same on the trimmed document (`run_trimmed`), so whatever is told about a text is told about
its lines up to the blanks at their ends. -/

namespace ComposeLint

open Line (moved)

/-! ## Single lines -/

namespace Check

/-- The colon that a column points at is no blank, so it stays where it is. -/
theorem lineIssues_trimmed (l : Line) : lineIssues (l.moved id) = lineIssues l := by
  refine lineIssues_alike (Line.alike_moved id l) ?_ ?_ fun key hkey => ?_
  · rw [Line.moved_trimmed]
  · rw [Line.moved_trimmed]
  · have hcolon : Text.isBlank ':' = false := by decide
    rw [colonColumn, Line.moved_raw, Text.idxOf_trimEnd hcolon (colon_mem_raw hkey), colonColumn]

theorem longSource?_trimmed (l : Line) : longSource? (l.moved id) = longSource? l := by
  simp only [longSource?, Line.moved_isListItem, Line.moved_item, Line.moved_trimmed,
    Line.moved_number, id_eq]

end Check

/-- No pass sees what stands at the ends of lines. -/
theorem Pass.run_trimmed (p : Pass) (doc : Document) : p.run (doc.map (moved id)) = p.run doc :=
  p.run_alike (Line.alike_moved id) Check.lineIssues_trimmed
    fun _ _ _ l _ => Check.longSource?_trimmed l

/-! ## Texts -/

/-- Texts whose lines differ at most in the blanks at their ends are one document once its lines
are trimmed. -/
theorem Document.ofText_trimmed {t u : Text}
    (h : (t.splitOn '\n').map Text.trimEnd = (u.splitOn '\n').map Text.trimEnd) :
    (Document.ofText t).map (moved id) = (Document.ofText u).map (moved id) := by
  have hlines := Document.map_moved_numberFrom h 0 1
  simp only [Int.add_zero] at hlines
  rw [Document.ofText_eq, Document.ofText_eq, ← Document.markScalars_moved,
    ← Document.markScalars_moved]
  exact congrArg _ hlines

/-- **The ends of lines carry no meaning.** Two texts with the same lines up to trailing blanks of
any kind, carriage returns among them, have the same counts, the same stack and the same report. -/
theorem readings_eq_of_lines_eq {t u : Text}
    (h : (t.splitOn '\n').map Text.trimEnd = (u.splitOn '\n').map Text.trimEnd) :
    Counts.read t = Counts.read u ∧ Stack.read t = Stack.read u ∧ validate t = validate u := by
  have hdoc := Document.ofText_trimmed h
  refine ⟨?_, ?_, ?_⟩
  · rw [Counts.read, ← @Counts.ofDocument_moved id, hdoc, Counts.ofDocument_moved]
    rfl
  · rw [Stack.read, ← Stack.ofDocument_moved strictMono_id, hdoc,
      Stack.ofDocument_moved strictMono_id]
    rfl
  · refine validate_eq_of_run_eq fun p => ?_
    rw [← Pass.run_trimmed p (Document.ofText t), hdoc, Pass.run_trimmed]

/-- A text as it comes from a system that ends its lines with carriage returns. -/
theorem readings_eq_carriageReturns :
    let t : Text := "services:\r\n  web: \t\r\n    image: a\r\n \t\r\n".toList
    let u : Text := "services:\n  web:\n    image: a\n\n".toList
    (t.splitOn '\n').map Text.trimEnd = (u.splitOn '\n').map Text.trimEnd ∧
      Counts.read t = Counts.read u ∧ Stack.read t = Stack.read u ∧ validate t = validate u := by
  intro t u
  have hlines : (t.splitOn '\n').map Text.trimEnd = (u.splitOn '\n').map Text.trimEnd := by decide
  exact ⟨hlines, readings_eq_of_lines_eq hlines⟩

end ComposeLint
