import ComposeLint.Line.Quote
import ComposeLint.Proofs.Line.Reading

/-! # Where a quote is open

The scan for an open quote, step by step. Outside of quotes a step looks at one character and the
one before it; inside of quotes it takes an escape as a whole and does not look back. A single quote
is the one thing that has to be told from what comes after it. -/

namespace ComposeLint

namespace Quote

theorem eq_char_of_ofChar? {c : Char} {q : Quote} (h : ofChar? c = some q) : c = q.char := by
  unfold ofChar? at h
  split at h
  · next hc => exact Option.some.inj h ▸ eq_of_beq hc
  · split at h
    · next hc => exact Option.some.inj h ▸ eq_of_beq hc
    · cases h

theorem ofChar?_eq_none_iff {c : Char} : ofChar? c = none ↔ Text.isQuote c = false := by
  unfold ofChar? Text.isQuote
  cases c == '"' <;> cases c == '\'' <;> simp

end Quote

namespace Text

/-- A step of the scan, in front of `rest`: after `previous` and inside of `quote` it takes `a` as a
whole and goes on inside of `next`. -/
inductive QuoteStep (rest : Text) : (quote : Option Quote) → (previous : Option Char) → (a : Text) →
    (next : Option Quote) → Prop
  | escape {previous : Option Char} (d : Char) :
    QuoteStep rest (some .double) previous ['\\', d] (some .double)
  | doubled {previous : Option Char} :
    QuoteStep rest (some .single) previous ['\'', '\''] (some .single)
  | inside {previous : Option Char} {q : Quote} {c : Char} (stays : c ≠ q.char)
      (free : q = .double → c ≠ '\\') : QuoteStep rest (some q) previous [c] (some q)
  | closing {previous : Option Char} {q : Quote} (last : q = .single → rest.head? ≠ some '\'') :
    QuoteStep rest (some q) previous [q.char] none
  | opening {previous : Option Char} (q : Quote) :
    QuoteStep rest none previous [q.char] (if tokenMayFollow previous then some q else none)
  | plain {previous : Option Char} {c : Char} (noQuote : isQuote c = false)
      (noComment : (c == '#' && commentMayFollow previous) = false) :
    QuoteStep rest none previous [c] none

/-- Where the scan ends: with the text, at half an escape, or in front of a comment. -/
inductive QuoteEnd : Option Quote → Option Char → Text → Prop
  | done {quote : Option Quote} {previous : Option Char} : QuoteEnd quote previous []
  | halfEscape {previous : Option Char} : QuoteEnd (some .double) previous ['\\']
  | comment {previous : Option Char} {rest : Text} (follows : commentMayFollow previous = true) :
    QuoteEnd none previous ('#' :: rest)

variable {quote next : Option Quote} {previous : Option Char} {a rest t : Text}

/-- Whatever is open where the scan ends stays open. -/
theorem QuoteEnd.openQuoteFrom_eq (h : QuoteEnd quote previous t) :
    openQuoteFrom quote previous t = quote := by
  rw [openQuoteFrom.eq_def]
  cases h with
  | done => rfl
  | halfEscape => rfl
  | comment follows => simp [follows]

theorem QuoteStep.openQuoteFrom_append (h : QuoteStep rest quote previous a next) :
    openQuoteFrom quote previous (a ++ rest) = openQuoteFrom next (a.getLast?.or previous) rest := by
  rw [openQuoteFrom.eq_def]
  cases h with
  | escape d => rfl
  | doubled => rfl
  | @inside _ q c stays free =>
    cases q with
    | double => simp [free rfl, show c ≠ '"' from stays]
    | single => simp [show c ≠ '\'' from stays]
  | @closing _ q last =>
    cases q with
    | double => rfl
    | single =>
      cases rest with
      | nil => rfl
      | cons d rest =>
        -- a second single quote would have made it an escape
        have hd : d ≠ '\'' := fun hd => last rfl (congrArg some hd)
        simp [Quote.char, hd]
  | opening q => cases q <;> rfl
  | plain noQuote noComment => simp [noComment, Quote.ofChar?_eq_none_iff.mpr noQuote]

/-- A step looks ahead only for a second single quote. -/
theorem QuoteStep.of_head? {rest' : Text} (h : QuoteStep rest quote previous a next)
    (hhead : rest'.head? = some '\'' → rest.head? = some '\'') :
    QuoteStep rest' quote previous a next := by
  cases h with
  | escape d => exact .escape d
  | doubled => exact .doubled
  | inside stays free => exact .inside stays free
  | closing last => exact .closing fun hq hrest => last hq (hhead hrest)
  | opening q => exact .opening q
  | plain noQuote noComment => exact .plain noQuote noComment

/-- Inside of quotes it does not matter what came before. -/
theorem openQuoteFrom_some (q : Quote) (previous previous' : Option Char) (t : Text) :
    openQuoteFrom (some q) previous t = openQuoteFrom (some q) previous' t := by
  rw [openQuoteFrom.eq_def, openQuoteFrom.eq_def _ previous']
  cases t <;> cases q <;> rfl

/-- Texts without quotes and number signs are passed over. -/
theorem openQuoteFrom_append_plain {a : Text} (h : ∀ c ∈ a, isPlain c = true) (rest : Text) :
    ∀ previous, openQuoteFrom none previous (a ++ rest) =
      openQuoteFrom none (a.getLast?.or previous) rest := by
  induction a with
  | nil => exact fun _ => rfl
  | cons c a ih =>
    intro previous
    have hc : isQuote c = false ∧ c ≠ '#' := by simpa [isPlain] using h c List.mem_cons_self
    have hstep : QuoteStep (a ++ rest) none previous [c] none := .plain hc.1 (by simp [hc.2])
    rw [getLast?_cons_or, ← ih fun d hd => h d (List.mem_cons_of_mem c hd)]
    exact hstep.openQuoteFrom_append

/-- The scan of a text is one of its steps after the other, and then an end. -/
theorem quoteScan_induction {motive : Option Quote → Option Char → Text → Prop}
    (ends : ∀ {quote previous t}, QuoteEnd quote previous t → motive quote previous t)
    (step : ∀ {quote previous a rest next}, QuoteStep rest quote previous a next →
      motive next (a.getLast?.or previous) rest → motive quote previous (a ++ rest))
    (quote : Option Quote) (previous : Option Char) (t : Text) : motive quote previous t := by
  -- cases 2 to 4 are inside of double quotes, 5 to 7 inside of single ones, 8 to 10 outside
  induction quote, previous, t using openQuoteFrom.induct with
  | case1 quote previous => exact ends .done
  | case2 previous c hc => exact eq_of_beq hc ▸ ends .halfEscape
  | case3 previous c hc d rest ih => exact eq_of_beq hc ▸ step (.escape d) ih
  | case4 previous c rest hc ih =>
    have hescape : c ≠ '\\' := fun h => hc (beq_iff_eq.mpr h)
    by_cases hquote : c = '"'
    · subst hquote
      exact step (.closing (q := .double) nofun) ih
    · rw [if_neg (by simpa using hquote)] at ih
      exact step (.inside hquote fun _ => hescape) ih
  | case5 previous c hc rest ih =>
    obtain rfl := eq_of_beq hc
    exact step .doubled ih
  | case6 previous c hc rest hrest ih =>
    obtain rfl := eq_of_beq hc
    refine step (.closing (q := .single) fun _ hhead => ?_) ih
    obtain ⟨tail, htail⟩ := List.head?_eq_some_iff.mp hhead
    exact hrest tail htail
  | case7 previous c rest hc ih =>
    exact step (.inside (q := .single) (fun h => hc (beq_iff_eq.mpr h)) nofun) ih
  | case8 previous c rest hc =>
    rw [Bool.and_eq_true, beq_iff_eq] at hc
    exact hc.1 ▸ ends (.comment hc.2)
  | case9 previous c rest hc q hq ih =>
    obtain rfl := Quote.eq_char_of_ofChar? hq
    exact step (.opening q) ih
  | case10 previous c rest hc hnone ih =>
    exact step (.plain (Quote.ofChar?_eq_none_iff.mp hnone) (Bool.eq_false_iff.mpr hc)) ih

end Text

end ComposeLint
