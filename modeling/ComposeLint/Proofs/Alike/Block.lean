import ComposeLint.Proofs.Alike.Shape

/-! # Blocks over lines that read alike

Lines that read alike have one shape, so they are cut alike. Besides, the values, keys and entries of
a block are the same over both, and the same lines are marked: no reader asks for the margin of a
blank line. -/

namespace ComposeLint

/-- Lines that read alike are cut alike. -/
theorem Line.sameShape_of_alike {place : Int → Int} {f : Line → Line} (h : ∀ l, (f l).Alike place l)
    (l : Line) : (f l).SameShape l := (h l).sameShape

namespace Block

variable {place : Int → Int} {f : Line → Line} (h : ∀ l, (f l).Alike place l) (b : Block)
include h

theorem value_alike : (b.withLines f).value = b.value := (h b.header).value

theorem isFlowList_alike : (b.withLines f).isFlowList = b.isFlowList := by
  rw [isFlowList, value_alike h, isFlowList]

theorem child?_alike (key : Text) :
    (b.withLines f).child? key = (b.child? key).map (withLines f) :=
  b.child?_withLines (Line.sameShape_of_alike h) (fun l _ => (h l).key?) key

theorem hasChild_alike (key : Text) : (b.withLines f).hasChild key = b.hasChild key := by
  simp only [hasChild, children_withLines (Line.sameShape_of_alike h), List.any_map,
    Function.comp_def, (h _).key?]

theorem entries_alike : (b.withLines f).entries = b.entries.map fun e => (f e.1, e.2) := by
  unfold entries
  rw [isFlowList_alike h, value_alike h, itemsBelow_withLines (Line.sameShape_of_alike h)]
  split
  · simp [Function.comp_def]
  · simp [Function.comp_def, (h _).item]

end Block

namespace Document

variable {place : Int → Int} {f : Line → Line} (h : ∀ l, (f l).Alike place l)
include h

/-! ## Marks -/

/-- Marking asks for blanks, indents and headers of scalars, so it marks changed lines as it marked
them before. -/
theorem markScalars_alike (hmark : ∀ l, f { l with inScalar := true } = { f l with inScalar := true })
    (holder : Option Nat) (lines : List Line) :
    markScalars holder (lines.map f) = (markScalars holder lines).map f := by
  induction lines generalizing holder with
  | nil => rfl
  | cons l rest ih =>
    have hheld : (holder.any fun indent => (f l).isBlank || indent < (f l).indent) =
        holder.any fun indent => l.isBlank || indent < l.indent := by
      rw [(h l).isBlank]
      cases hb : l.isBlank with
      | true => rfl
      | false => rw [(h l).indent hb]
    have hopen : (if (f l).opensScalar then some (f l).indent else none) =
        if l.opensScalar then some l.indent else none := by
      rw [(h l).opensScalar]
      split
      · next ho =>
        rw [(h l).indent (Line.isBlank_of_isContent (Line.isContent_of_opensScalar ho))]
      · rfl
    simp only [List.map_cons, markScalars, hheld, hopen]
    split
    · rw [ih, List.map_cons, hmark]
    · rw [ih, List.map_cons]

end Document

end ComposeLint
