import ComposeLint.Proofs.Reworded.Document
import ComposeLint.Validation

/-! # Scalar text says nothing to the checks of syntax and practice

Both checks pass over marked lines but for their margins, and a rewording leaves margins, marks and
all other lines alone. So what is found line by line stays (`Check.lineIssues_reworded`), and so
does what is found by looking for keys, which are looked for on unmarked lines only. -/

namespace ComposeLint

variable (r : Rewording)

namespace Check

/-! ## Syntax -/

/-- Of scalar text only the margin is checked. -/
theorem lineIssues_of_inScalar {l : Line} (hs : l.inScalar = true) (hb : l.isBlank = false) :
    lineIssues l = (if l.hasMixedMargin then [Finding.mixedMargin.onLine l.number]
      else if l.hasTabMargin then [Finding.tabMargin.onLine l.number] else []) := by
  rw [lineIssues, hb, hs, marginFinding?, hs]
  cases l.hasMixedMargin <;> cases l.hasTabMargin <;> simp

theorem lineIssues_reworded (l : Line) : lineIssues (l.reworded r) = lineIssues l := by
  cases h : r.newText? l with
  | none => rw [Line.reworded_of_none h]
  | some t =>
    have hs := Rewording.inScalar_of_newText? h
    have hb := Rewording.isBlank_of_newText? h
    rw [lineIssues_of_inScalar hs hb, lineIssues_of_inScalar (by simpa using hs) (by simpa using hb)]
    simp

/-- The levels of keys pass by scalar text. -/
theorem duplicateKeysFrom_reworded (lines : List Line) : ∀ levels,
    duplicateKeysFrom levels (lines.map (Line.reworded r)) = duplicateKeysFrom levels lines := by
  induction lines with
  | nil => exact fun _ => rfl
  | cons l rest ih =>
    intro levels
    rw [List.map_cons]
    cases hs : l.inScalar with
    | true =>
      have hs' : (l.reworded r).inScalar = true := by simpa using hs
      rw [duplicateKeysFrom, hs', duplicateKeysFrom, hs, Bool.or_true, Bool.or_true, if_pos rfl,
        if_pos rfl, ih]
    | false =>
      rw [Line.reworded_of_free hs]
      simp only [duplicateKeysFrom, ih]

theorem syntaxIssues_reworded (doc : Document) :
    syntaxIssues (doc.map (Line.reworded r)) = syntaxIssues doc := by
  simp only [syntaxIssues, List.flatMap_map, lineIssues_reworded, duplicateKeyIssues,
    duplicateKeysFrom_reworded]

/-! ## Practice -/

variable {r}

/-- Keys are looked for outside of scalars. -/
theorem linesWithKey_reworded (doc : Document) (key : String) :
    linesWithKey (doc.map (Line.reworded r)) key = linesWithKey doc key := by
  refine Line.filter_reworded (fun l => ?_) (fun l hl => ?_) doc
  · cases hs : l.inScalar with
    | true => simp [hs]
    | false => rw [Line.reworded_of_free hs, hs]
  · simp only [Bool.and_eq_true, Bool.not_eq_true'] at hl
    exact Line.reworded_of_free hl.2

theorem bestPracticeIssues_reworded (h : r.KeepsSections) (doc : Document) :
    bestPracticeIssues (doc.map (Line.reworded r)) = bestPracticeIssues doc := by
  simp only [bestPracticeIssues, missingSectionIssues, inlineEnvironmentIssues, latestTagIssues,
    healthcheckIssues, linesWithKey_reworded, Document.findSection?_reworded h, List.length_map]

end Check

/-- **Scalar text says nothing to the checks of syntax and practice.** Put any other texts behind
the margins of any lines of block scalars: the marks stay, and the check of the syntax, that of
repeated keys within it, and the check of good practice find what they found before. -/
theorem scalarText_opaque_to_lines (text : Text) :
    let doc := Document.ofText text
    let doc' := Document.ofText (text.reworded r)
    doc'.map Line.inScalar = doc.map Line.inScalar ∧
      Check.syntaxIssues doc' = Check.syntaxIssues doc ∧
      Check.duplicateKeyIssues doc' = Check.duplicateKeyIssues doc ∧
      Check.bestPracticeIssues doc' = Check.bestPracticeIssues doc := by
  intro doc doc'
  have hdoc : doc' = doc.map (Line.reworded (r.within doc)) := r.ofText_reworded_within text
  have hmarks : doc'.map Line.inScalar = doc.map Line.inScalar := by
    simp [hdoc, Function.comp_def]
  rw [hdoc] at hmarks ⊢
  exact ⟨hmarks, Check.syntaxIssues_reworded _ doc, Check.duplicateKeysFrom_reworded _ doc [],
    Check.bestPracticeIssues_reworded (r.keepsSections_within text) doc⟩

/-- The new texts may look like anything. -/
example : Text.reworded (fun _ => some ⟨"services: # 'x".toList, by decide, by decide, by decide⟩)
    "a: |\n  one\n\n \ttwo\nb: c".toList =
      "a: |\n  services: # 'x\n\n \tservices: # 'x\nb: c".toList := by decide

end ComposeLint
