import ComposeLint.Proofs.Line.QuotedWords
import ComposeLint.Proofs.Line.Remark

/-! # Spellings of a word

A plain word may be written as it stands or between quotes. Either way the scan for comments goes
over it as a whole, the key reader takes it for a run of key characters, and without quotes it is the
word. -/

namespace ComposeLint

namespace Text

/-- Letters, figures, the underscore and the point. -/
def isSimpleChar (c : Char) : Bool := isLetter c || isFigure c || c == '_' || c == '.'

/-- A plain word. -/
structure IsWord (w : Text) : Prop where
  nonempty : w ≠ []
  chars : ∀ c ∈ w, isSimpleChar c = true

/-- The word `w` written as `t`. -/
inductive Spelling (w : Text) : Text → Prop
  | plain : Spelling w w
  | quoted (q : Quote) : Spelling w (q.around w)

/-- What the scan for comments leaves of the text behind a word or a quote. -/
def afterWord (t : Text) : Text := beforeComment none (some '"') t

/-- What stands behind a word, without a comment and the blanks before it. -/
def remainder (t : Text) : Text := t.afterWord.trimEnd

/-! ## Characters -/

/-- The characters of words in quotes. -/
def isSpellingChar (c : Char) : Bool := isSimpleChar c || isQuote c

theorem isKeyChar_of_isSpellingChar {c : Char} (h : isSpellingChar c = true) :
    KeyValue.isKeyChar c = true := by
  have hsigns : "_.\"'".toList.all KeyValue.isKeyChar = true := by decide
  by_cases hc : isLetter c = true ∨ isFigure c = true
  · simp only [KeyValue.isKeyChar, Bool.or_eq_true]
    exact .inl hc
  · refine List.all_eq_true.mp hsigns c ?_
    simpa [isSpellingChar, isSimpleChar, isQuote, not_or.mp hc, or_assoc] using h

theorem isSpellingChar_of_isSimpleChar {c : Char} (h : isSimpleChar c = true) :
    isSpellingChar c = true := by rw [isSpellingChar, h, Bool.true_or]

theorem isPlain_of_isSimpleChar {c : Char} (h : isSimpleChar c = true) : isPlain c = true := by
  simp [isPlain, isQuote, ne_of_class h (d := '"') (by decide),
    ne_of_class h (d := '\'') (by decide), ne_of_class h (d := '#') (by decide)]

/-- Neither a quote nor a comment starts right behind a word. -/
theorem mayFollow_of_isSimpleChar {c : Char} (h : isSimpleChar c = true) :
    quoteMayFollow (some c) = false ∧ commentMayFollow (some c) = false := by
  have hsigns : " \t[,:=-".toList.all (!isSimpleChar ·) = true := by decide
  constructor
  · rw [quoteMayFollow, Option.all_some, Bool.eq_false_iff]
    intro hmem
    have hfalse := List.all_eq_true.mp hsigns c (List.contains_iff_mem.mp hmem)
    rw [h] at hfalse
    cases hfalse
  · simp [commentMayFollow, isSpaceOrTab, ne_of_class h (d := ' ') (by decide),
      ne_of_class h (d := '\t') (by decide)]

/-! ## The scan for comments -/

theorem beforeComment_eq_afterWord {c : Char}
    (h : quoteMayFollow (some c) = false ∧ commentMayFollow (some c) = false) (t : Text) :
    beforeComment none (some c) t = t.afterWord := by
  have hquote : quoteMayFollow (some '"') = false ∧ commentMayFollow (some '"') = false := by decide
  cases t with
  | nil => rfl
  | cons d rest => rw [afterWord, beforeComment, beforeComment, h.1, h.2, hquote.1, hquote.2]

/-- Blanks at the end are no part of what the scan keeps. -/
theorem trimEnd_beforeComment_append_blank {b : Text} (hb : ∀ c ∈ b, isBlank c = true) (a : Text) :
    ∀ quote previous, (beforeComment quote previous (a ++ b)).trimEnd =
      (beforeComment quote previous a).trimEnd := by
  induction a with
  | nil =>
    intro quote previous
    exact trimEnd_eq_nil_iff.mpr fun c hc => hb c ((isPrefix_beforeComment b quote previous).subset hc)
  | cons c a ih =>
    intro quote previous
    rw [List.cons_append, beforeComment_cons, beforeComment_cons]
    split
    · rfl
    · rw [← trimEnd_cons_trimEnd, ih, trimEnd_cons_trimEnd]

theorem withoutComment_trimEnd (t : Text) : t.trimEnd.withoutComment = t.withoutComment := by
  obtain ⟨tail, ht, htail⟩ := exists_trimEnd_append t
  conv_rhs => rw [ht]
  exact (trimEnd_beforeComment_append_blank htail _ none none).symm

/-- The scan comes to the end of the text with no quote open. -/
def IsClosed (a : Text) : Prop :=
  ∀ rest, beforeComment none none (a ++ rest) = a ++ beforeComment none a.getLast? rest

theorem isClosed_of_plain {a : Text} (h : ∀ c ∈ a, isPlain c = true) : a.IsClosed := fun rest => by
  rw [beforeComment_append h, Option.or_none]

/-! ## Words and their spellings -/

namespace IsWord

variable {w : Text} (hw : w.IsWord)
include hw

theorem quote_not_mem (q : Quote) : q.char ∉ w := fun hmem =>
  ne_of_class (hw.chars _ hmem) (show isSimpleChar q.char = false by cases q <;> decide) rfl

theorem beforeComment_append (previous : Option Char) (rest : Text) :
    beforeComment none previous (w ++ rest) = w ++ rest.afterWord := by
  rw [Text.beforeComment_append fun c hc => isPlain_of_isSimpleChar (hw.chars c hc),
    List.getLast?_eq_some_getLast hw.nonempty, Option.some_or,
    beforeComment_eq_afterWord (mayFollow_of_isSimpleChar (hw.chars _ (List.getLast_mem _)))]

/-- The scan goes over quotes around a word whether it takes them for quotes or not. -/
theorem beforeComment_around_append (q : Quote) (previous : Option Char) (rest : Text) :
    beforeComment none previous (q.around w ++ rest) = q.around w ++ rest.afterWord := by
  have hquote : quoteMayFollow (some q.char) = false ∧ commentMayFollow (some q.char) = false := by
    cases q <;> decide
  have hsign : (q.char == '#') = false := by cases q <;> rfl
  cases hprevious : quoteMayFollow previous with
  | true =>
    rw [beforeComment_around (hw.quote_not_mem q) hprevious, beforeComment_eq_afterWord hquote]
  | false =>
    have hlast := mayFollow_of_isSimpleChar (hw.chars _ (List.getLast_mem hw.nonempty))
    rw [Quote.around, List.cons_append, List.append_assoc, List.singleton_append, beforeComment,
      hprevious, Bool.and_false, hsign, Bool.false_and, if_neg Bool.false_ne_true,
      if_neg Bool.false_ne_true, hw.beforeComment_append, afterWord, beforeComment, hsign]
    simp [quoteMayFollow, beforeComment_eq_afterWord hquote]

end IsWord

namespace Spelling

variable {w t : Text} (hw : w.IsWord) (h : Spelling w t)
include hw h

theorem ne_nil : t ≠ [] := by
  cases h with
  | plain => exact hw.nonempty
  | quoted q => exact q.around_ne_nil w

theorem isSpellingChar_of_mem {c : Char} (hc : c ∈ t) : isSpellingChar c = true := by
  cases h with
  | plain => exact isSpellingChar_of_isSimpleChar (hw.chars c hc)
  | quoted q =>
    rw [Quote.around, List.mem_cons, List.mem_append, List.mem_singleton] at hc
    rcases hc with rfl | hc | rfl
    · rw [isSpellingChar, q.isQuote_char, Bool.or_true]
    · exact isSpellingChar_of_isSimpleChar (hw.chars c hc)
    · rw [isSpellingChar, q.isQuote_char, Bool.or_true]

theorem isKeyChar_of_mem {c : Char} (hc : c ∈ t) : KeyValue.isKeyChar c = true :=
  isKeyChar_of_isSpellingChar (h.isSpellingChar_of_mem hw hc)

theorem isBlank_of_mem {c : Char} (hc : c ∈ t) : isBlank c = false :=
  KeyValue.isBlank_eq_false_of_isKeyChar (h.isKeyChar_of_mem hw hc)

theorem exists_cons : ∃ c rest, t = c :: rest ∧ isSpellingChar c = true := by
  obtain ⟨c, rest, rfl⟩ := List.exists_cons_of_ne_nil (h.ne_nil hw)
  exact ⟨c, rest, rfl, h.isSpellingChar_of_mem hw List.mem_cons_self⟩

theorem not_mem {c : Char} (hc : isSpellingChar c = false) : c ∉ t := fun hmem =>
  ne_of_class (h.isSpellingChar_of_mem hw hmem) hc rfl

theorem beforeComment_append (previous : Option Char) (rest : Text) :
    beforeComment none previous (t ++ rest) = t ++ rest.afterWord := by
  cases h with
  | plain => exact hw.beforeComment_append previous rest
  | quoted q => exact hw.beforeComment_around_append q previous rest

theorem trimEnd_append (start rest : Text) :
    trimEnd (start ++ (t ++ rest)) = start ++ (t ++ rest.trimEnd) := by
  obtain ⟨front, c, rfl⟩ : ∃ front c, t = front ++ [c] :=
    ⟨_, _, (List.dropLast_append_getLast (h.ne_nil hw)).symm⟩
  have hassoc (tail : Text) : start ++ (front ++ [c] ++ tail) = (start ++ front) ++ c :: tail := by
    simp
  rw [hassoc, trimEnd, dropEndWhile_append_cons (h.isBlank_of_mem hw (by simp)), hassoc, trimEnd]

/-- Behind a closed start the spelling is kept, and all that the scan keeps behind it. -/
theorem withoutComment_append {start : Text} (hstart : start.IsClosed) (rest : Text) :
    withoutComment (start ++ (t ++ rest)) = start ++ (t ++ rest.remainder) := by
  rw [withoutComment, hstart, h.beforeComment_append hw, h.trimEnd_append hw, remainder]

theorem trim_eq : t.trim = t := by
  have hend := h.trimEnd_append hw [] []
  rw [List.nil_append, List.append_nil] at hend
  obtain ⟨c, rest, rfl, hc⟩ := h.exists_cons hw
  have hblank := KeyValue.isBlank_eq_false_of_isKeyChar (isKeyChar_of_isSpellingChar hc)
  rw [trim, trimStart, List.dropWhile_cons_of_neg (by simp [hblank])]
  exact hend.trans (List.append_nil _)

theorem unquote_eq : t.unquote = w := by
  cases h with
  | plain =>
    rw [unquote_eq_trim fun c hc => ?_, Spelling.plain.trim_eq hw]
    have hplain := isPlain_of_isSimpleChar (hw.chars c hc)
    rw [isPlain, Bool.and_eq_true, Bool.not_eq_true'] at hplain
    exact hplain.1
  | quoted q => exact q.unquote_around w

theorem isScalarHeader_eq_false : Line.isScalarHeader t = false := by
  obtain ⟨c, rest, rfl, hc⟩ := h.exists_cons hw
  simp [Line.isScalarHeader, ne_of_class hc (d := '|') (by decide),
    ne_of_class hc (d := '>') (by decide)]

end Spelling

end Text

end ComposeLint
