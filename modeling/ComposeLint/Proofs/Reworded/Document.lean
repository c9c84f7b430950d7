import ComposeLint.Proofs.Document.Sections
import ComposeLint.Proofs.Reworded.Line

/-! # Documents in other words

Marks rest on the margins of scalar text and on the lines outside of it, so a reworded text is
marked as it was before: its lines are those of the old document, reworded
(`Document.ofText_reworded`). Scalar text is indented, so the sections stay where they are
(`Rewording.keepsSections_within`). -/

namespace ComposeLint

/-- The text with its lines reworded. -/
def Text.reworded (r : Rewording) (text : Text) : Text :=
  Text.joinWith "\n" ((Document.ofText text).zipWith r.textOf (text.splitOn '\n'))

namespace Document

open Rewording (textOf)

variable (r : Rewording)

/-- Rewording a text and reading it as scalar text is rewording the line. -/
theorem ofText_textOf (n : Int) (t : Text) :
    ({ Line.ofText n (r.textOf { Line.ofText n t with inScalar := true } t) with
      inScalar := true } : Line) =
      ({ Line.ofText n t with inScalar := true } : Line).reworded r := by
  let l : Line := { Line.ofText n t with inScalar := true }
  cases h : r.newText? l with
  | none => rw [textOf, h, Line.reworded_of_none h]
  | some new =>
    have htrim : l.raw.trim ≠ [] := Line.trimmed_ne_nil (Rewording.isBlank_of_newText? h)
    have htrim' : t.trim ≠ [] := by
      rwa [← Text.trim_trimEnd, ← Text.trimEnd_dropEndWhile_carriageReturn, Text.trim_trimEnd]
    have hspace (c : Char) : Text.isSpaceOrTab c = true → Text.isBlank c = true :=
      Text.isBlank_of_isSpaceOrTab
    have hmargin : t.takeWhile Text.isSpaceOrTab = l.margin := by
      rw [← Text.takeWhile_trimEnd hspace htrim', ← Text.trimEnd_dropEndWhile_carriageReturn]
      exact Text.takeWhile_trimEnd hspace htrim
    rw [textOf, h, Line.reworded_of_some h]
    simp only [Line.ofText, Line.withText, new.append_dropEndWhile, hmargin]
    rfl

/-- Rewording before marking is rewording after it. -/
theorem markScalars_textOf (texts : List Text) : ∀ (holder : Option Nat) (n : Int),
    markScalars holder (numberFrom n
      (List.zipWith r.textOf (markScalars holder (numberFrom n texts)) texts)) =
      (markScalars holder (numberFrom n texts)).map (Line.reworded r) := by
  induction texts with
  | nil => exact fun _ _ => rfl
  | cons t rest ih =>
    intro holder n
    rw [numberFrom]
    cases hheld : isHeld holder (Line.ofText n t) with
    | true =>
      let l : Line := { Line.ofText n t with inScalar := true }
      have hline := ofText_textOf r n t
      have hheld' : isHeld holder (Line.ofText n (r.textOf l t)) = true := by
        have hmarked : isHeld holder (l.reworded r) = isHeld holder l := by simp [isHeld]
        rw [← hline] at hmarked
        exact hmarked.trans hheld
      rw [markScalars_cons_held hheld, List.zipWith_cons_cons, numberFrom,
        markScalars_cons_held hheld', hline, ih, List.map_cons]
    | false =>
      have hfree : (Line.ofText n t).inScalar = false := rfl
      have htext : r.textOf (Line.ofText n t) t = t := by
        simp [textOf, Rewording.newText?, hfree]
      rw [markScalars_cons_free hheld, List.zipWith_cons_cons, numberFrom, htext,
        markScalars_cons_free hheld, ih, List.map_cons, Line.reworded_of_free hfree]

/-- A reworded text has the lines that it had, reworded. -/
theorem ofText_reworded (text : Text) :
    ofText (text.reworded r) = (ofText text).map (Line.reworded r) := by
  have hne : List.zipWith r.textOf (ofText text) (text.splitOn '\n') ≠ [] := by
    rw [ofText_eq, ne_eq, ← List.length_eq_zero_iff]
    simp
  have hnl : ∀ t ∈ List.zipWith r.textOf (ofText text) (text.splitOn '\n'), '\n' ∉ t := by
    intro t ht
    rw [← List.map_uncurry_zip_eq_zipWith, List.mem_map] at ht
    obtain ⟨⟨l, old⟩, hmem, rfl⟩ := ht
    have hold := not_mem_of_mem_splitOn text old (List.of_mem_zip hmem).2
    change '\n' ∉ r.textOf l old
    unfold textOf
    split
    · next new _ =>
      rw [List.mem_append, not_or]
      exact ⟨fun h => hold ((List.takeWhile_sublist _).mem h), new.newline_not_mem⟩
    · exact hold
  rw [Text.reworded, ofText_joinWith hne hnl, ofText_eq, markScalars_textOf]

end Document

/-! ## Scalar text is indented -/

namespace Document

theorem indent_pos_of_mem_markScalars {lines : List Line} (hfree : ∀ l ∈ lines, l.inScalar = false) :
    ∀ holder, ∀ m ∈ markScalars holder lines, m.inScalar = true → m.isBlank = false →
      0 < m.indent := by
  induction lines with
  | nil => intro holder m hm; cases hm
  | cons l rest ih =>
    have ih := ih fun m hm => hfree m (List.mem_cons_of_mem l hm)
    intro holder m hm hs hb
    cases hheld : isHeld holder l with
    | true =>
      rw [markScalars_cons_held hheld] at hm
      rcases List.mem_cons.mp hm with rfl | hm
      · obtain ⟨indent, -, hdeep⟩ := (Option.any_eq_true _ _).mp hheld
        have hdeeper : indent < l.indent := by
          rw [show l.isBlank = false from hb] at hdeep
          simpa using hdeep
        exact Nat.zero_lt_of_lt hdeeper
      · exact ih holder m hm hs hb
    | false =>
      rw [markScalars_cons_free hheld] at hm
      rcases List.mem_cons.mp hm with rfl | hm
      · rw [hfree m List.mem_cons_self] at hs
        cases hs
      · exact ih _ m hm hs hb

/-- Scalar text never stands in the first column. -/
theorem indent_pos {text : Text} {l : Line} (hl : l ∈ ofText text) (hs : l.inScalar = true)
    (hb : l.isBlank = false) : 0 < l.indent := by
  rw [ofText_eq] at hl
  refine indent_pos_of_mem_markScalars (fun m hm => ?_) none l hl hs hb
  obtain ⟨t, -, n, rfl⟩ := exists_of_mem_numberFrom hm
  rfl

end Document

theorem Line.startsTopLevel_of_indent_pos {l : Line} (h : 0 < l.indent) :
    l.startsTopLevel = false := by
  cases hraw : l.raw with
  | nil => rw [startsTopLevel, hraw]; rfl
  | cons c rest =>
    have hc : c = ' ' := by
      by_contra hc
      simp [indent, hraw, hc] at h
    rw [startsTopLevel, hraw, hc]
    rfl

namespace Rewording

/-- The rewording, on the lines of a document only. -/
def within (r : Rewording) (doc : Document) : Rewording := fun l => if l ∈ doc then r l else none

/-- The lines of a reworded text, by a rewording that keeps to the document. -/
theorem ofText_reworded_within (r : Rewording) (text : Text) :
    Document.ofText (text.reworded r) =
      (Document.ofText text).map (Line.reworded (r.within (Document.ofText text))) := by
  rw [Document.ofText_reworded]
  refine List.map_congr_left fun l hl => ?_
  simp only [Line.reworded, newText?, within, if_pos hl]

/-- What holds of a line and itself, and of the lines of a document and what becomes of them, holds
of all lines once the rewording keeps to the document. -/
theorem within_induction {r : Rewording} {doc : Document} (alike : Line → Line → Prop)
    (hrefl : ∀ l, alike l l) (h : ∀ l ∈ doc, alike l (l.reworded r)) (l : Line) :
    alike l (l.reworded (r.within doc)) := by
  by_cases hl : l ∈ doc
  · have hsame : l.reworded (r.within doc) = l.reworded r := by
      simp only [Line.reworded, newText?, within, if_pos hl]
    exact hsame ▸ h l hl
  · have hnone : (r.within doc).newText? l = none := by simp [newText?, within, hl]
    exact (Line.reworded_of_none hnone).symm ▸ hrefl l

end Rewording

/-- No rewording of a document's lines reaches the first column. -/
structure Rewording.KeepsSections (r : Rewording) : Prop where
  startsTopLevel : ∀ l : Line, (l.reworded r).startsTopLevel = l.startsTopLevel
  isSectionHeader : ∀ (kind : EntryKind) (l : Line),
    (l.reworded r).isSectionHeader kind.sectionName = l.isSectionHeader kind.sectionName

theorem Rewording.keepsSections_within (r : Rewording) (text : Text) :
    (r.within (Document.ofText text)).KeepsSections := by
  have hheader {kind : EntryKind} {l : Line} (h : 0 < l.indent) :
      l.isSectionHeader kind.sectionName = false := by
    by_contra hheader
    have htop := Document.startsTopLevel_of_isSectionHeader (Bool.not_eq_false _ ▸ hheader)
    rw [Line.startsTopLevel_of_indent_pos h] at htop
    cases htop
  let alike (l m : Line) : Prop := m.startsTopLevel = l.startsTopLevel ∧ ∀ kind : EntryKind,
    m.isSectionHeader kind.sectionName = l.isSectionHeader kind.sectionName
  have hlines : ∀ l ∈ Document.ofText text, alike l (l.reworded r) := by
    intro l hl
    cases h : r.newText? l with
    | none =>
      rw [Line.reworded_of_none h]
      exact ⟨rfl, fun _ => rfl⟩
    | some t =>
      have hpos : 0 < l.indent := Document.indent_pos hl (r.inScalar_of_newText? h)
        (r.isBlank_of_newText? h)
      have hpos' : 0 < (l.reworded r).indent := (l.reworded_indent r).symm ▸ hpos
      exact ⟨(Line.startsTopLevel_of_indent_pos hpos').trans
          (Line.startsTopLevel_of_indent_pos hpos).symm,
        fun kind => (hheader hpos').trans (hheader hpos).symm⟩
  have hkept := Rewording.within_induction alike (fun _ => ⟨rfl, fun _ => rfl⟩) hlines
  exact ⟨fun l => (hkept l).1, fun kind l => (hkept l).2 kind⟩

namespace Document

variable {r : Rewording} (h : r.KeepsSections) (doc : Document) (kind : EntryKind)
include h

theorem findSection?_reworded :
    findSection? (doc.map (Line.reworded r)) kind.sectionName =
      findSection? doc kind.sectionName := by
  simp [findSection?, List.findIdx?_map, Function.comp_def, h.isSectionHeader]

theorem section?_reworded :
    Document.section? (doc.map (Line.reworded r)) kind.sectionName =
      Document.section? doc kind.sectionName := by
  have hend : sectionEnd (doc.map (Line.reworded r)) = sectionEnd doc := by
    funext start
    simp [sectionEnd, ← List.map_drop, List.findIdx_map, Function.comp_def, h.startsTopLevel]
  rw [Document.section?, findSection?_reworded h, hend, Document.section?]

theorem sectionBody_reworded :
    sectionBody (doc.map (Line.reworded r)) kind.sectionName =
      (sectionBody doc kind.sectionName).map (Line.reworded r) := by
  unfold sectionBody
  rw [section?_reworded h]
  cases Document.section? doc kind.sectionName with
  | none => rfl
  | some s => simp [List.map_take, List.map_drop]

end Document

end ComposeLint
