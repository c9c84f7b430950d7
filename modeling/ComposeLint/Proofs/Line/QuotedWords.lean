import ComposeLint.Proofs.Line.Reading
import ComposeLint.Stack.Reader

/-! # Texts between quotes

A text between two quotes of one kind, as it stands and with no escapes. Taking the quotes off gives
it back, whatever it is; and if it has no such quote in it, the scan for comments goes over it as a
whole wherever a quote may open. -/

namespace ComposeLint

namespace Quote

/-- The text with a quote before and after it. -/
def around (q : Quote) (t : Text) : Text := q.char :: (t ++ [q.char])

theorem isQuote_char (q : Quote) : Text.isQuote q.char = true := by cases q <;> rfl

theorem isBlank_char (q : Quote) : Text.isBlank q.char = false := by cases q <;> decide

theorem around_ne_nil (q : Quote) (t : Text) : q.around t ≠ [] := List.cons_ne_nil _ _

theorem getLast?_around (q : Quote) (t : Text) : (q.around t).getLast? = some q.char := by
  rw [around, ← List.cons_append, List.getLast?_concat]

/-- No blanks stand around the quotes. -/
theorem trim_around (q : Quote) (t : Text) : (q.around t).trim = q.around t := by
  have hstart : (q.around t).trimStart = q.around t :=
    List.dropWhile_cons_of_neg (by simp [q.isBlank_char])
  rw [Text.trim, hstart]
  refine Text.dropEndWhile_eq_self fun c hc => ?_
  rw [q.getLast?_around] at hc
  exact Option.some.inj hc ▸ q.isBlank_char

theorem unquote_around (q : Quote) (t : Text) : (q.around t).unquote = t := by
  obtain ⟨d, rest, hrest⟩ : ∃ d rest, t ++ [q.char] = d :: rest :=
    List.exists_cons_of_ne_nil (by simp)
  rw [Text.unquote, q.trim_around, around, hrest]
  dsimp only
  rw [← hrest, q.isQuote_char, List.getLast?_concat, List.dropLast_concat]
  simp

end Quote

namespace Text

theorem unquote_trim (t : Text) : t.trim.unquote = t.unquote := by
  have htrim : t.trim.trim = t.trim := (trim_trimEnd t.trimStart).trans (trim_trimStart t)
  rw [unquote, htrim, unquote]

/-- Quotes that are taken off as a pair are those that would be dropped in any case. -/
theorem withoutQuotes_unquote (t : Text) : t.unquote.withoutQuotes = t.withoutQuotes := by
  unfold withoutQuotes
  rw [← trim_filter_trim _ t]
  unfold unquote
  dsimp only
  split
  · next c d rest htrim =>
    split
    · next hquotes =>
      simp only [Bool.and_eq_true, beq_iff_eq] at hquotes
      have hbody : d :: rest = (d :: rest).dropLast ++ [c] :=
        (List.dropLast_append_getLast? c hquotes.2).symm
      have hfilter : (c :: d :: rest).filter (!isQuote ·) =
          (d :: rest).dropLast.filter (!isQuote ·) := by
        conv_lhs => rw [hbody]
        simp [hquotes.1]
      rw [htrim, hfilter]
    · rfl
  · rfl

/-- A quote that is not closed is not taken off. -/
theorem quote_mem_unquote {q : Quote} {t : Text} (h : q.char ∉ t) :
    q.char ∈ unquote (q.char :: t) := by
  have htrim : trim (q.char :: t) = q.char :: t.trimEnd := by
    rw [trim, trimStart, List.dropWhile_cons_of_neg (by simp [q.isBlank_char])]
    exact dropEndWhile_append_cons q.isBlank_char [] t
  rw [unquote, htrim]
  cases hrest : t.trimEnd with
  | nil => exact List.mem_cons_self
  | cons d rest =>
    have hlast : (d :: rest).getLast? ≠ some q.char := fun hlast =>
      h (mem_of_mem_dropEndWhile (hrest ▸ List.mem_of_getLast? hlast))
    simp [hlast]

/-- Inside of quotes nothing is cut off before they close. -/
theorem beforeComment_inside {q : Char} {t : Text} (h : q ∉ t) (rest : Text) : ∀ previous,
    beforeComment (some q) previous (t ++ q :: rest) =
      t ++ q :: beforeComment none (some q) rest := by
  induction t with
  | nil => simp [beforeComment]
  | cons c t ih =>
    intro previous
    obtain ⟨hc, ht⟩ := not_or.mp (List.mem_cons.not.mp h)
    rw [List.cons_append, beforeComment, beq_eq_false_iff_ne.mpr (Ne.symm hc),
      if_neg Bool.false_ne_true, ih ht, List.cons_append]

/-- Where a quote may open, a text between quotes is kept. -/
theorem beforeComment_around {q : Quote} {t : Text} {previous : Option Char} (h : q.char ∉ t)
    (hprevious : quoteMayFollow previous = true) (rest : Text) :
    beforeComment none previous (q.around t ++ rest) =
      q.around t ++ beforeComment none (some q.char) rest := by
  rw [Quote.around, List.cons_append, List.append_assoc, List.singleton_append, beforeComment,
    q.isQuote_char, hprevious, Bool.and_self, if_pos rfl, beforeComment_inside h]
  simp

end Text

end ComposeLint
