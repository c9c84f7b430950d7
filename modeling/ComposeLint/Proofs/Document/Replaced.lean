import ComposeLint.Proofs.Document.Lines

/-! # One line in place of another

Marking looks at a line for its indent and for whether it is blank and opens a scalar. So a document
stays as it is around a line that is replaced by one of the same kind (`Document.ofText_replaced`). -/

namespace ComposeLint

/-- One line in place of another, all others as they are. -/
def Line.replaced (l m : Line) (k : Line) : Line := if k = l then m else k

namespace Line

variable {l m k : Line}

theorem replaced_self (l m : Line) : replaced l m l = m := if_pos rfl

theorem replaced_of_ne (h : k ≠ l) : replaced l m k = k := if_neg h

/-- What is read off a line is kept if it is kept where the line is replaced. -/
theorem read_replaced {α : Type} {read : Line → α} (h : k = l → read m = read l) :
    read (replaced l m k) = read k := by
  rw [replaced]
  split
  · next hk => rw [h hk, hk]
  · rfl

theorem map_replaced_of_not_mem {lines : List Line} (h : l ∉ lines) :
    lines.map (replaced l m) = lines := by
  conv_rhs => rw [← List.map_id lines]
  exact List.map_congr_left fun k hk => replaced_of_ne fun heq => h (heq ▸ hk)

end Line

namespace Document

section
variable {text old : Text} {above below : List Text}
variable (hlines : text.splitOn '\n' = above ++ old :: below)
include hlines

/-- The document above a line, at it and below it. -/
theorem ofText_eq_cut : ofText text = markScalars none (numberFrom 1 above) ++
    markScalars (holderAfter none (numberFrom 1 above))
      (Line.ofText (1 + above.length) old :: numberFrom (1 + above.length + 1) below) := by
  rw [ofText_eq, hlines, numberFrom_append, markScalars_append, numberFrom]

/-- A line that is not marked is there as it is, and no scalar holds it. -/
theorem eq_ofText_of_getElem? {l : Line} (hl : (ofText text)[above.length]? = some l)
    (hfree : l.inScalar = false) : l = Line.ofText (1 + above.length) old ∧
      isHeld (holderAfter none (numberFrom 1 above)) l = false := by
  rw [ofText_eq_cut hlines, List.getElem?_append_right (by simp)] at hl
  simp only [length_markScalars, length_numberFrom, Nat.sub_self, ← List.head?_eq_getElem?] at hl
  cases hheld : isHeld (holderAfter none (numberFrom 1 above))
      (Line.ofText (1 + above.length) old) with
  | true =>
    rw [markScalars_cons_held hheld, List.head?_cons] at hl
    obtain rfl := Option.some.inj hl
    cases hfree
  | false =>
    rw [markScalars_cons_free hheld, List.head?_cons] at hl
    obtain rfl := Option.some.inj hl
    exact ⟨rfl, hheld⟩

section
variable {new : Text} (hnew : '\n' ∉ new)
include hnew

theorem newline_not_mem_replaced : ∀ t ∈ above ++ new :: below, '\n' ∉ t := by
  have hold : ∀ t ∈ above ++ old :: below, '\n' ∉ t := hlines ▸ not_mem_of_mem_splitOn text
  intro t ht
  rcases List.mem_append.mp ht with ht | ht
  · exact hold t (List.mem_append_left _ ht)
  · rcases List.mem_cons.mp ht with rfl | ht
    · exact hnew
    · exact hold t (List.mem_append_right _ (List.mem_cons_of_mem _ ht))

variable {l : Line} (hl : (ofText text)[above.length]? = some l) (hfree : l.inScalar = false)
  (hblank : (Line.ofText l.number new).isBlank = l.isBlank)
  (hindent : (Line.ofText l.number new).indent = l.indent)
include hl hfree hblank hindent

/-- The new document above its line, at it and below it. -/
theorem ofText_replaced_eq_cut : ofText (Text.joinWith "\n" (above ++ new :: below)) =
    markScalars none (numberFrom 1 above) ++ Line.ofText l.number new ::
      markScalars (if (Line.ofText l.number new).opensScalar then some l.indent else none)
        (numberFrom (l.number + 1) below) := by
  obtain ⟨hline, hheld⟩ := eq_ofText_of_getElem? hlines hl hfree
  have hnumber : l.number = 1 + above.length := by rw [hline]; rfl
  have hheld' : isHeld (holderAfter none (numberFrom 1 above)) (Line.ofText l.number new) = false := by
    rw [← hheld, isHeld, isHeld, hblank, hindent]
  rw [ofText_joinWith (by simp) (newline_not_mem_replaced hlines hnew), numberFrom_append,
    markScalars_append, numberFrom, ← hnumber, markScalars_cons_free hheld', hindent]

theorem getElem?_ofText_replaced :
    (ofText (Text.joinWith "\n" (above ++ new :: below)))[above.length]? =
      some (Line.ofText l.number new) := by
  rw [ofText_replaced_eq_cut hlines hnew hl hfree hblank hindent,
    List.getElem?_append_right (by simp)]
  simp

/-- The document is the same but for the line that is replaced. -/
theorem ofText_replaced (hopens : (Line.ofText l.number new).opensScalar = l.opensScalar) :
    ofText (Text.joinWith "\n" (above ++ new :: below)) =
      (ofText text).map (Line.replaced l (Line.ofText l.number new)) := by
  obtain ⟨hline, hheld⟩ := eq_ofText_of_getElem? hlines hl hfree
  have hnumber : l.number = 1 + above.length := by rw [hline]; rfl
  have habove : l ∉ markScalars none (numberFrom 1 above) := fun hmem => by
    have hbound := (number_of_mem_markScalars hmem).2
    omega
  have hbelow (holder : Option Nat) : l ∉ markScalars holder (numberFrom (l.number + 1) below) :=
    fun hmem => by
      have hbound := (number_of_mem_markScalars hmem).1
      omega
  rw [ofText_replaced_eq_cut hlines hnew hl hfree hblank hindent, ofText_eq_cut hlines, ← hline,
    ← hnumber, markScalars_cons_free hheld, hopens, List.map_append, List.map_cons,
    Line.map_replaced_of_not_mem habove, Line.map_replaced_of_not_mem (hbelow _),
    Line.replaced_self]

end

end

end Document

end ComposeLint
