import ComposeLint.Proofs.Line.Reading

/-! # Comments are cut once and for all

The scan for comments reads from left to right and looks back by one character, so what it makes of a
text depends on the start of it alone. A text goes through it as a whole as far as no comment starts
in it, and what comes next is scanned inside of the quote that the text leaves open, if there is one
(`Text.beforeComment_append_of_clear`). All laws of the cut come from this. -/

namespace ComposeLint

namespace Text

variable {quote previous : Option Char} {a t : Text}

/-! ## The state of the scan -/

/-- The quote that a text leaves open, comments or not. -/
def quoteLeftBy (quote previous : Option Char) : Text → Option Char
  | [] => quote
  | c :: rest => quoteLeftBy (quoteAfter quote previous c) (some c) rest

/-- A comment starts in the text: a number sign outside of quotes, with nothing or a space or tab in
front of it. -/
def HasComment (quote previous : Option Char) (t : Text) : Prop :=
  ∃ before rest, t = before ++ '#' :: rest ∧ quoteLeftBy quote previous before = none ∧
    commentMayFollow (before.getLast?.or previous) = true

theorem hasComment_cons (quote previous : Option Char) (c : Char) (rest : Text) :
    HasComment quote previous (c :: rest) ↔
      (quote = none ∧ c = '#' ∧ commentMayFollow previous = true) ∨
        HasComment (quoteAfter quote previous c) (some c) rest := by
  constructor
  · rintro ⟨before, tail, heq, hquote, hfollows⟩
    cases before with
    | nil => exact .inl ⟨hquote, (List.cons.inj heq).1, hfollows⟩
    | cons d before =>
      obtain ⟨rfl, rfl⟩ := List.cons.inj heq
      rw [getLast?_cons_or] at hfollows
      exact .inr ⟨before, tail, rfl, hquote, hfollows⟩
  · rintro (⟨hquote, rfl, hfollows⟩ | ⟨before, tail, rfl, hquote, hfollows⟩)
    · exact ⟨[], rest, rfl, hquote, hfollows⟩
    · refine ⟨c :: before, tail, rfl, hquote, ?_⟩
      rwa [getLast?_cons_or]

theorem not_hasComment_nil : ¬HasComment quote previous [] := by
  rintro ⟨before, rest, heq, -⟩
  simp at heq

/-! ## The scan of a text and what comes next -/

/-- Behind the start of a comment nothing is read. -/
theorem beforeComment_append_of_hasComment (h : HasComment quote previous a) (b : Text) :
    beforeComment quote previous (a ++ b) = beforeComment quote previous a := by
  induction a generalizing quote previous with
  | nil => exact absurd h not_hasComment_nil
  | cons c a ih =>
    rw [List.cons_append, beforeComment_cons, beforeComment_cons]
    split
    · rfl
    · next hsign => rw [ih (((hasComment_cons ..).mp h).resolve_left hsign)]

/-- A text with no comment is kept, and the scan goes on behind it. -/
theorem beforeComment_append_of_clear (h : ¬HasComment quote previous a) (b : Text) :
    beforeComment quote previous (a ++ b) =
      a ++ beforeComment (quoteLeftBy quote previous a) (a.getLast?.or previous) b := by
  induction a generalizing quote previous with
  | nil => rfl
  | cons c a ih =>
    obtain ⟨hsign, hrest⟩ := not_or.mp (mt (hasComment_cons ..).mpr h)
    rw [List.cons_append, beforeComment_cons, if_neg hsign, ih hrest, getLast?_cons_or]
    rfl

theorem beforeComment_of_clear (h : ¬HasComment quote previous t) :
    beforeComment quote previous t = t := by
  have hscan := beforeComment_append_of_clear h []
  rwa [List.append_nil, beforeComment, List.append_nil] at hscan

/-- No comment starts in what is kept of a text. -/
theorem not_hasComment_of_kept (h : a <+: beforeComment quote previous t) :
    ¬HasComment quote previous a := by
  induction t generalizing quote previous a with
  | nil =>
    obtain rfl := List.prefix_nil.mp h
    exact not_hasComment_nil
  | cons c t ih =>
    rw [beforeComment_cons] at h
    split at h
    · obtain rfl := List.prefix_nil.mp h
      exact not_hasComment_nil
    · next hsign =>
      rcases List.prefix_cons_iff.mp h with rfl | ⟨a, rfl, hrest⟩
      · exact not_hasComment_nil
      · exact fun hcomment => ((hasComment_cons ..).mp hcomment).elim hsign (ih hrest)

/-- Only a quote is ever left open. -/
theorem isQuote_of_quoteLeftBy {q : Char} (hquote : quote.all isQuote = true)
    (h : quoteLeftBy quote previous t = some q) : isQuote q = true := by
  induction t generalizing quote previous with
  | nil =>
    rw [quoteLeftBy] at h
    simpa [h] using hquote
  | cons c t ih =>
    refine @ih (quoteAfter quote previous c) (some c) ?_ h
    cases quote with
    | some q' =>
      cases hclose : c == q' with
      | false => simpa [quoteAfter, hclose] using hquote
      | true => simp [quoteAfter, hclose]
    | none =>
      cases hopen : isQuote c && quoteMayFollow previous with
      | false => simp [quoteAfter, hopen]
      | true => simpa [quoteAfter, hopen] using (Bool.and_eq_true_iff.mp hopen).1

/-! ## The cut -/

theorem isBlank_of_getLast?_trimEnd {c : Char} (h : t.trimEnd.getLast? = some c) :
    isBlank c = false := by
  have hne : t.trimEnd ≠ [] := by
    rintro hnil
    rw [hnil] at h
    cases h
  rw [List.getLast?_eq_some_getLast hne] at h
  obtain rfl := Option.some.inj h
  exact Bool.eq_false_iff.mpr (List.rdropWhile_last_not isBlank t hne)

/-- What is left of a text has no comment. -/
theorem withoutComment_withoutComment (t : Text) :
    t.withoutComment.withoutComment = t.withoutComment := by
  have hprefix : t.withoutComment <+: beforeComment none none t := List.rdropWhile_prefix isBlank _
  rw [withoutComment, beforeComment_of_clear (not_hasComment_of_kept hprefix), withoutComment,
    trimEnd_trimEnd]

/-- Outside of quotes, a comment behind the text is all that is cut off. -/
theorem withoutComment_append_comment (h : ¬HasComment none none t)
    (hquote : quoteLeftBy none none t = none) (u : Text) :
    (t ++ ' ' :: '#' :: u).withoutComment = t.trimEnd := by
  have hsign : beforeComment none t.getLast? (' ' :: '#' :: u) = [' '] := by
    rw [beforeComment_cons, if_neg (by simp), beforeComment_cons, if_pos ⟨rfl, rfl, rfl⟩]
  rw [withoutComment, beforeComment_append_of_clear h, hquote, Option.or_none, hsign]
  exact dropEndWhile_append (List.all_eq_true.mp (by decide)) t

/-- Inside of quotes the number sign is kept. -/
theorem prefix_withoutComment_append {q : Char} (h : ¬HasComment none none t)
    (hquote : quoteLeftBy none none t = some q) (u : Text) :
    t ++ [' ', '#'] <+: (t ++ ' ' :: '#' :: u).withoutComment := by
  have hq := isQuote_of_quoteLeftBy rfl hquote
  have hkept : ∃ rest, beforeComment (some q) t.getLast? (' ' :: '#' :: u) = ' ' :: '#' :: rest := by
    have hspace : ' ' ≠ q := (ne_of_class hq (by decide)).symm
    have hsign : '#' ≠ q := (ne_of_class hq (by decide)).symm
    exact ⟨beforeComment (some q) (some '#') u, by simp [beforeComment, hspace, hsign]⟩
  obtain ⟨rest, hrest⟩ := hkept
  have hend := dropEndWhile_append_cons (p := isBlank) (c := '#') (by decide) (t ++ [' ']) rest
  rw [List.append_assoc, List.append_assoc] at hend
  rw [withoutComment, beforeComment_append_of_clear h, hquote, Option.or_none, hrest]
  exact ⟨trimEnd rest, by rw [List.append_assoc]; exact hend.symm⟩

end Text

/-- **Comments are cut once and for all.** The cut leaves a start of the text with no blank at its end
and finds nothing more to cut in it. A comment put behind the text leaves no trace if and only if the
scan has come to a comment before or ends outside of quotes. -/
theorem comment_cut_is_final (t : Text) :
    t.withoutComment <+: t ∧
      (∀ c, t.withoutComment.getLast? = some c → Text.isBlank c = false) ∧
      t.withoutComment.withoutComment = t.withoutComment ∧
      ∀ u, (t ++ " #".toList ++ u).withoutComment = t.withoutComment ↔
        Text.HasComment none none t ∨ Text.quoteLeftBy none none t = none := by
  refine ⟨Text.isPrefix_withoutComment t, fun c => Text.isBlank_of_getLast?_trimEnd,
    Text.withoutComment_withoutComment t, fun u => ?_⟩
  have happend : t ++ " #".toList ++ u = t ++ ' ' :: '#' :: u := List.append_assoc ..
  rw [happend]
  by_cases hcomment : Text.HasComment none none t
  · simp [Text.withoutComment, Text.beforeComment_append_of_hasComment hcomment, hcomment]
  · cases hquote : Text.quoteLeftBy none none t with
    | none =>
      rw [Text.withoutComment_append_comment hcomment hquote, Text.withoutComment,
        Text.beforeComment_of_clear hcomment]
      simp
    | some q =>
      have hne : (t ++ ' ' :: '#' :: u).withoutComment ≠ t.withoutComment := by
        intro heq
        -- what is left would be longer than the text it is left of
        have hlonger := (Text.prefix_withoutComment_append hcomment hquote u).length_le
        have hshorter := (Text.isPrefix_withoutComment t).length_le
        rw [heq, List.length_append] at hlonger
        simp only [List.length_cons, List.length_nil] at hlonger
        omega
      simp [hcomment, hne]

/-- In quotes that are still open there are no comments. -/
example : Text.quoteLeftBy none none "a: 'b".toList = some '\'' ∧
    Text.withoutComment ("a: 'b".toList ++ " #".toList ++ "c".toList) = "a: 'b #c".toList := by decide

end ComposeLint
