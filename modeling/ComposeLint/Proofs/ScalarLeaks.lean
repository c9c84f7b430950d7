import ComposeLint.Proofs.Reworded.Check

/-! # What scalar text says to the checks of structure and volumes

These checks cut blocks out of a document, and three scans of theirs look at a line in spite of its
mark: for a place where entries start, for keys that make a definition, and for sources of long
mounts. A comment at the end of a block is cut off even if it is scalar text. So scalar text is not
opaque to them (`scalarText_read_as_structure`), but nothing else of it has an influence
(`scalarText_opaque_unless_read`). -/

namespace ComposeLint

/-- **What scalar text says to the checks of structure and volumes.** Put any other texts behind the
margins of any lines of block scalars. If each of these lines is a comment, an entry, a key of a
definition or a source of a mount no more and no less than it was, then both checks find what they
found before, and the check of the structure fails if it did. -/
theorem scalarText_opaque_unless_read {r : Rewording} {text : Text}
    (h : ∀ l ∈ Document.ofText text, (l.reworded r).ReadsLike l) :
    let doc := Document.ofText text
    let doc' := Document.ofText (text.reworded r)
    Check.structureIssues doc' = Check.structureIssues doc ∧
      Check.volumeUseIssues doc' = Check.volumeUseIssues doc := by
  intro doc doc'
  have hdoc : doc' = doc.map (Line.reworded (r.within doc)) := r.ofText_reworded_within text
  have hunnoticed : (r.within doc).Unnoticed :=
    Rewording.within_induction (fun l m => m.ReadsLike l) Line.ReadsLike.refl h
  have hkeeps := r.keepsSections_within text
  rw [hdoc]
  exact ⟨Check.structureIssues_reworded hunnoticed hkeeps doc,
    Check.volumeUseIssues_reworded hunnoticed hkeeps doc⟩

/-- A command that turns into what looks like an image and services of its own. -/
theorem command_opaque :
    let text : Text := "services:\n  web:\n    command: |\n      run\n\n      on\n    image: a".toList
    let r : Rewording := fun l =>
      if l.number = 4 then some ⟨"image: b:latest # '".toList, by decide, by decide, by decide⟩
      else some ⟨"services:".toList, by decide, by decide, by decide⟩
    text.reworded r = ("services:\n  web:\n    command: |\n      image: b:latest # '\n\n" ++
        "      services:\n    image: a").toList ∧
      (∀ l ∈ Document.ofText text, (l.reworded r).ReadsLike l) ∧
      Check.structureIssues (Document.ofText (text.reworded r)) =
        Check.structureIssues (Document.ofText text) := by
  intro text r
  have halike : ∀ l ∈ Document.ofText text, (l.reworded r).ReadsLike l := by decide
  exact ⟨by decide, halike, (scalarText_opaque_unless_read halike).1⟩

/-- Scalar text is read as the definition of a network, as the end of one, as a service and as the
volume of a mount: with other text in its place the checks find something else. -/
theorem scalarText_read_as_structure :
    let r : Rewording := fun _ => some ⟨"other: x".toList, by decide, by decide, by decide⟩
    let definition : Text :=
      "services:\n  web:\n    networks:\n      note: |\n        driver: x".toList
    let comment : Text :=
      "services:\n  web:\n    networks:\n      driver: |\n        a\n        # b".toList
    let entry : Text := "services:\n- |\n  web:".toList
    let mount : Text :=
      "services:\n  web:\n    volumes:\n      - ./a:/a\n      - |\n        source: data".toList
    (∀ text ∈ [definition, comment, entry],
      Check.structureIssues (Document.ofText (text.reworded r)) ≠
        Check.structureIssues (Document.ofText text)) ∧
      Check.volumeUseIssues (Document.ofText (mount.reworded r)) ≠
        Check.volumeUseIssues (Document.ofText mount) := by
  decide

end ComposeLint
