import ComposeLint.Proofs.Bare.Stack
import ComposeLint.Proofs.Moved.Document

/-! # Blank lines and comments say nothing about the stack

Put between two lines, a remark moves the lines below by one and may close a scalar that is still
open. It marks none of them otherwise (`Document.bare_markScalars_remark`): a blank line never
closes a scalar, and where a comment does, the next line was outside of it anyway. So the same
content remains at other numbers in the same order, and a stack is read off the content. -/

namespace ComposeLint

open Line (moved)

/-! ## Remarks as lines -/

theorem Line.isBlank_ofText {t : Text} (h : t.isVacant = true) (n : Int) :
    (Line.ofText n t).isBlank = true := by
  rw [isBlank_iff, trimmed_ofText, Text.trim_eq_nil_iff]
  exact List.all_eq_true.mp h

theorem Line.isComment_ofText {t : Text} (h : t.trimStart.head? = some '#') (n : Int) :
    (Line.ofText n t).isComment = true := by
  rw [isComment_iff, trimmed_ofText, Text.head?_trim, h]

namespace Document

/-! ## Marking -/

/-- A remark marks no line below it. -/
theorem bare_markScalars_remark {holder : Option Nat} {remark : Line} {following : List Line}
    (h : remark.isBlank = true ∨ remark.isComment = true ∧
      (markScalars holder following).head?.all (!·.inScalar) = true) :
    bare (markScalars holder (remark :: following)) = bare (markScalars holder following) := by
  have hcontent : remark.isContent = false := by
    rcases h with hblank | ⟨hcomment, -⟩
    · simp [Line.isContent, hblank]
    · simp [Line.isContent, hcomment]
  have hopens : remark.opensScalar = false := by
    rw [Bool.eq_false_iff]
    intro ho
    rw [Line.isContent_of_opensScalar ho] at hcontent
    cases hcontent
  cases hheld : isHeld holder remark with
  | true =>
    have hmarked : ({ remark with inScalar := true } : Line).isContent = false := hcontent
    rw [markScalars_cons_held hheld, bare, List.filter_cons_of_neg (by simp [hmarked])]
    rfl
  | false =>
    rw [markScalars_cons_free hheld, hopens, if_neg (by simp), bare,
      List.filter_cons_of_neg (by simp [hcontent]), bare]
    congr 1
    rcases h with hblank | ⟨-, hnext⟩
    · cases holder with
      | none => rfl
      | some indent => simp [isHeld, hblank] at hheld
    · cases following with
      | nil => rfl
      | cons l rest =>
        -- the comment may have closed the scalar, but this line would have done so too
        have hfree : isHeld holder l = false := by
          cases hl : isHeld holder l with
          | false => rfl
          | true => simp [markScalars_cons_held hl] at hnext
        rw [markScalars_cons_none, markScalars_cons_free hfree]

/-! ## Numbers -/

/-- The number of a line once there is one more line at `n`. -/
def numberAfterInsert (n m : Int) : Int := if m < n then m else m + 1

theorem strictMono_numberAfterInsert (n : Int) : StrictMono (numberAfterInsert n) := by
  intro a b hab
  unfold numberAfterInsert
  split <;> split <;> omega

/-- Lines one further down are marked as they would be in place. -/
theorem markScalars_numberFrom_succ (holder : Option Nat) (n : Int) (texts : List Text) :
    (markScalars holder (numberFrom (n + 1) texts)).map (moved id) =
      (markScalars holder (numberFrom n texts)).map (moved (· + 1)) := by
  rw [← markScalars_moved, map_moved_numberFrom rfl 1 n, markScalars_moved]

theorem head?_inScalar_numberFrom_succ (holder : Option Nat) (n : Int) (texts : List Text) :
    (markScalars holder (numberFrom (n + 1) texts)).head?.map Line.inScalar =
      (markScalars holder (numberFrom n texts)).head?.map Line.inScalar := by
  have hmarks := congrArg (fun lines => (lines.map Line.inScalar).head?)
    (markScalars_numberFrom_succ holder n texts)
  simpa only [List.map_map, Function.comp_def, Line.moved_inScalar, List.head?_map] using hmarks

theorem bare_append (a b : List Line) : bare (a ++ b) = bare a ++ bare b := List.filter_append ..

theorem bare_moved (place : Int → Int) (doc : Document) :
    bare (doc.map (moved place)) = (bare doc).map (moved place) := by
  simp [bare, List.filter_map, Function.comp_def]

/-- Lines in front of the insertion keep their numbers. -/
theorem map_moved_above (above : List Text) :
    (markScalars none (numberFrom 1 above)).map (moved id) =
      (markScalars none (numberFrom 1 above)).map
        (moved (numberAfterInsert (1 + above.length))) := by
  refine List.map_congr_left fun l hl => ?_
  have hbound : l.number < 1 + above.length := (number_of_mem_markScalars hl).2
  simp only [moved, numberAfterInsert, if_pos hbound, id_eq]

/-- Lines from the insertion on move down by one. -/
theorem map_moved_below (holder : Option Nat) (n : Int) (below : List Text) :
    (markScalars holder (numberFrom n below)).map (moved (· + 1)) =
      (markScalars holder (numberFrom n below)).map (moved (numberAfterInsert n)) := by
  refine List.map_congr_left fun l hl => ?_
  have hbound : n ≤ l.number := (number_of_mem_markScalars hl).1
  simp only [moved, numberAfterInsert, if_neg (Int.not_lt.mpr hbound)]

/-- A remark between two texts is a remark between their lines. -/
theorem remark_ofText {holder : Option Nat} {remark : Text} {n : Int} {below : List Text}
    (h : remark.isVacant = true ∨ remark.trimStart.head? = some '#' ∧
      (markScalars holder (numberFrom n below)).head?.all (!·.inScalar) = true) :
    (Line.ofText n remark).isBlank = true ∨ (Line.ofText n remark).isComment = true ∧
      (markScalars holder (numberFrom (n + 1) below)).head?.all (!·.inScalar) = true := by
  refine h.imp (Line.isBlank_ofText · n) fun ⟨hcomment, hnext⟩ =>
    ⟨Line.isComment_ofText hcomment n, ?_⟩
  rw [← Option.all_map (f := Line.inScalar) (p := (!·))] at hnext ⊢
  rwa [head?_inScalar_numberFrom_succ]

/-- The line that follows the insertion is the first of those below. -/
theorem getElem?_markScalars_append (above below : List Text) :
    (markScalars none (numberFrom 1 (above ++ below)))[above.length]? =
      (markScalars (holderAfter none (numberFrom 1 above))
        (numberFrom (1 + above.length) below)).head? := by
  have hlen : (markScalars none (numberFrom 1 above)).length = above.length := by simp
  rw [numberFrom_append, markScalars_append, List.getElem?_append_right hlen.le, hlen,
    Nat.sub_self, List.head?_eq_getElem?]

/-- The content of a document after a remark is put in is its content at other numbers. -/
theorem bare_insert {above below : List Text} {remark : Text}
    (h : remark.isVacant = true ∨ remark.trimStart.head? = some '#' ∧
      ((markScalars none (numberFrom 1 (above ++ below)))[above.length]?).all
        (!·.inScalar) = true) :
    (bare (markScalars none (numberFrom 1 (above ++ remark :: below)))).map (moved id) =
      (bare (markScalars none (numberFrom 1 (above ++ below)))).map
        (moved (numberAfterInsert (1 + above.length))) := by
  let n : Int := 1 + above.length
  let start := markScalars none (numberFrom 1 above)
  let holder := holderAfter none (numberFrom 1 above)
  have hold : markScalars none (numberFrom 1 (above ++ below)) =
      start ++ markScalars holder (numberFrom n below) := by
    rw [numberFrom_append, markScalars_append]
  have hnew : markScalars none (numberFrom 1 (above ++ remark :: below)) =
      start ++ markScalars holder (Line.ofText n remark :: numberFrom (n + 1) below) := by
    rw [numberFrom_append, markScalars_append, numberFrom]
  rw [getElem?_markScalars_append] at h
  calc (bare (markScalars none (numberFrom 1 (above ++ remark :: below)))).map (moved id)
      = (bare (start ++ markScalars holder (numberFrom (n + 1) below))).map (moved id) := by
        rw [hnew, bare_append, bare_markScalars_remark (remark_ofText h), ← bare_append]
    _ = bare (start.map (moved (numberAfterInsert n)) ++
          (markScalars holder (numberFrom n below)).map (moved (numberAfterInsert n))) := by
        rw [← bare_moved, List.map_append, markScalars_numberFrom_succ, map_moved_above,
          map_moved_below]
    _ = (bare (markScalars none (numberFrom 1 (above ++ below)))).map
          (moved (numberAfterInsert n)) := by
        rw [hold, ← List.map_append, bare_moved]

end Document

/-- **Blank lines and comments say nothing about the stack.** Put a line of blanks anywhere, or a
comment with any margin in front of a line that is not scalar text or at the very end: the counts
and the stack stay as they are. -/
theorem stack_eq_of_remark_inserted {text : Text} (above below : List Text) (remark : Text)
    (hlines : text.splitOn '\n' = above ++ below) (hnl : '\n' ∉ remark)
    (hremark : remark.isVacant = true ∨ remark.trimStart.head? = some '#' ∧
      ((Document.ofText text)[above.length]?).all (!·.inScalar) = true) :
    let edited := Text.joinWith "\n" (above ++ remark :: below)
    Counts.read edited = Counts.read text ∧ Stack.read edited = Stack.read text := by
  have hnew : Document.ofText (Text.joinWith "\n" (above ++ remark :: below)) =
      Document.markScalars none (Document.numberFrom 1 (above ++ remark :: below)) := by
    refine Document.ofText_joinWith (by simp) fun t ht => ?_
    rw [List.mem_append, List.mem_cons] at ht
    rcases ht with ht | rfl | ht
    · exact Document.not_mem_of_mem_splitOn text t (by simp [hlines, ht])
    · exact hnl
    · exact Document.not_mem_of_mem_splitOn text t (by simp [hlines, ht])
  have hold := Document.ofText_eq text
  rw [hlines] at hold
  rw [hold] at hremark
  have hbare := Document.bare_insert hremark
  rw [← hnew, ← hold] at hbare
  constructor
  · have hcounts := congrArg Counts.ofDocument hbare
    rwa [Counts.ofDocument_moved, Counts.ofDocument_moved, Counts.ofDocument_bare,
      Counts.ofDocument_bare] at hcounts
  · have hstack := congrArg Stack.ofDocument hbare
    rwa [Stack.ofDocument_moved strictMono_id,
      Stack.ofDocument_moved (Document.strictMono_numberAfterInsert _), Stack.ofDocument_bare,
      Stack.ofDocument_bare] at hstack

/-- A blank line within a scalar, and a comment that ends the scalar before its time. -/
theorem stack_eq_with_remarks :
    let lines : List Text := ["services:", "  web:", "    command: |", "      run", "      on",
      "    image: a"].map String.toList
    let text := Text.joinWith "\n" lines
    text.splitOn '\n' = lines ∧ ((Document.ofText text)[5]?).all (!·.inScalar) = true ∧
      Stack.read (Text.joinWith "\n" (lines.take 4 ++ " \t".toList :: lines.drop 4)) =
        Stack.read text ∧
      Stack.read (Text.joinWith "\n" (lines.take 5 ++ "# end".toList :: lines.drop 5)) =
        Stack.read text := by
  intro lines text
  have hlines : text.splitOn '\n' = lines := by decide
  have hfree : ((Document.ofText text)[5]?).all (!·.inScalar) = true := by decide
  obtain ⟨-, hblank⟩ := stack_eq_of_remark_inserted (lines.take 4) (lines.drop 4) " \t".toList
    hlines (by decide) (.inl (by decide))
  obtain ⟨-, hcomment⟩ := stack_eq_of_remark_inserted (lines.take 5) (lines.drop 5)
    "# end".toList hlines (by decide) (.inr ⟨by decide, hfree⟩)
  exact ⟨hlines, hfree, hblank, hcomment⟩

end ComposeLint
