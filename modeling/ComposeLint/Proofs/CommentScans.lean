import ComposeLint.Proofs.Line.Quotes
import Mathlib.Data.Nat.Find

/-! # Two scans for one comment

A comment is cut off by one scan, and the quotes in front of it are checked by another. Both are in
the same state as long as every quote opens for both of them alike (`Text.OpensQuotesAlike`), and
then they stop at the same place. The scan that cuts comments knows of no escapes and opens no quote
behind a brace, and where this matters it may take text in quotes for a comment. -/

namespace ComposeLint

namespace Text

variable {quote next : Option Quote} {previous : Option Char} {a rest t : Text}

/-! ## Where the check of quotes stops -/

/-- The check of quotes takes the number sign at this place for the start of a comment: no quote is
open there, and nothing or a space or tab is in front of it. -/
def StartsCommentAt (quote : Option Quote) (previous : Option Char) (t : Text) (i : Nat) : Prop :=
  t[i]? = some '#' ∧ commentMayFollow ((t.take i).getLast?.or previous) = true ∧
    openQuoteFrom quote previous (t.take i) = none

instance (quote : Option Quote) (previous : Option Char) (t : Text) (i : Nat) :
    Decidable (StartsCommentAt quote previous t i) :=
  inferInstanceAs (Decidable (_ ∧ _ ∧ _))

/-- The check of quotes reads this many characters, up to the first comment or to the end. -/
structure StopsAt (quote : Option Quote) (previous : Option Char) (t : Text) (p : Nat) : Prop where
  stop : p = t.length ∨ StartsCommentAt quote previous t p
  first : ∀ i < p, ¬StartsCommentAt quote previous t i

theorem StartsCommentAt.lt_length {p : Nat} (h : StartsCommentAt quote previous t p) :
    p < t.length := (List.getElem?_eq_some_iff.mp h.1).1

theorem StopsAt.le {m n : Nat} (hm : StopsAt quote previous t m) (hn : StopsAt quote previous t n) :
    m ≤ n := by
  by_contra hlt
  rcases hn.stop with rfl | hstart
  · rcases hm.stop with rfl | hstart
    · exact hlt le_rfl
    · exact hlt hstart.lt_length.le
  · exact hm.first n (Nat.lt_of_not_le hlt) hstart

theorem exists_stopsAt (quote : Option Quote) (previous : Option Char) (t : Text) :
    ∃ p, StopsAt quote previous t p := by
  classical
  have hstop : ∃ p, p = t.length ∨ StartsCommentAt quote previous t p := ⟨t.length, .inl rfl⟩
  exact ⟨Nat.find hstop, Nat.find_spec hstop, fun i hi hstart => Nat.find_min hstop hi (.inr hstart)⟩

/-- What stands behind the start of a comment has no part in the check. -/
theorem openQuoteFrom_append_comment (hopen : openQuoteFrom quote previous a = none)
    (hblank : commentMayFollow (a.getLast?.or previous) = true) :
    openQuoteFrom quote previous (a ++ '#' :: rest) = none := by
  induction quote, previous, a using quoteScan_induction with
  | ends h =>
    rw [h.openQuoteFrom_eq] at hopen
    cases h with
    | done =>
      rw [hopen]
      exact (QuoteEnd.comment hblank).openQuoteFrom_eq
    | halfEscape => cases hopen
    | comment follows => exact (QuoteEnd.comment follows).openQuoteFrom_eq
  | @step quote previous a b next h ih =>
    rw [h.openQuoteFrom_append] at hopen
    rw [List.getLast?_append, Option.or_assoc] at hblank
    -- a number sign is not what a step looks ahead for
    have hstep : QuoteStep (b ++ '#' :: rest) quote previous a next := by
      refine h.of_head? fun hhead => ?_
      cases b with
      | nil => cases hhead
      | cons c b => exact hhead
    rw [List.append_assoc, hstep.openQuoteFrom_append]
    exact ih hopen hblank

/-- The check of a text is the check of what it reads of it. -/
theorem StopsAt.openQuoteFrom_take {p : Nat} (h : StopsAt quote previous t p) :
    openQuoteFrom quote previous t = openQuoteFrom quote previous (t.take p) := by
  rcases h.stop with rfl | ⟨hsign, hblank, hopen⟩
  · rw [List.take_length]
  · obtain ⟨hlt, hsign⟩ := List.getElem?_eq_some_iff.mp hsign
    have hcut : t = t.take p ++ '#' :: t.drop (p + 1) := by
      rw [← hsign, ← List.drop_eq_getElem_cons hlt, List.take_append_drop]
    rw [hopen, hcut]
    exact openQuoteFrom_append_comment hopen hblank

/-! ## Both scans in step -/

/-- Wherever a quote is open right behind a character of its kind, this character has opened it, and
it opens a quote for the scan of comments as well. -/
def OpensQuotesAlike (quote : Option Quote) (previous : Option Char) (t : Text) : Prop :=
  ∀ i (q : Quote), t[i]? = some q.char → openQuoteFrom quote previous (t.take (i + 1)) = some q →
    openQuoteFrom quote previous (t.take i) = none ∧
      quoteMayFollow ((t.take i).getLast?.or previous) = true

theorem tokenMayFollow_of_quoteMayFollow (h : quoteMayFollow previous = true) :
    tokenMayFollow previous = true := by
  cases previous with
  | none => rfl
  | some c =>
    have hmem : c ∈ " \t[,:=-".toList := by simpa [quoteMayFollow] using h
    have hwider : " \t[,:=-".toList.all fun d => tokenMayFollow (some d) := by decide
    exact List.all_eq_true.mp hwider c hmem

namespace QuoteStep

variable (h : QuoteStep rest quote previous a next)
include h

/-- A step is the same in front of less of the text. -/
theorem openQuoteFrom_append_take (i : Nat) : openQuoteFrom quote previous (a ++ rest.take i) =
    openQuoteFrom next (a.getLast?.or previous) (rest.take i) := by
  refine (h.of_head? fun hhead => ?_).openQuoteFrom_append
  cases i with
  | zero => cases hhead
  | succ i =>
    cases rest with
    | nil => cases hhead
    | cons c rest => exact hhead

/-- The places behind a step are those of the rest. -/
theorem places_append (i : Nat) :
    (a ++ rest)[a.length + i]? = rest[i]? ∧
      openQuoteFrom quote previous ((a ++ rest).take (a.length + i)) =
        openQuoteFrom next (a.getLast?.or previous) (rest.take i) ∧
      ((a ++ rest).take (a.length + i)).getLast?.or previous =
        (rest.take i).getLast?.or (a.getLast?.or previous) := by
  have htake : (a ++ rest).take (a.length + i) = a ++ rest.take i := by
    rw [List.take_append, Nat.add_sub_cancel_left, List.take_of_length_le (Nat.le_add_right _ _)]
  refine ⟨?_, ?_, ?_⟩
  · rw [List.getElem?_append_right (Nat.le_add_right _ _), Nat.add_sub_cancel_left]
  · rw [htake, h.openQuoteFrom_append_take]
  · rw [htake, List.getLast?_append, Option.or_assoc]

theorem startsCommentAt_iff (i : Nat) : StartsCommentAt quote previous (a ++ rest) (a.length + i) ↔
    StartsCommentAt next (a.getLast?.or previous) rest i := by
  obtain ⟨hchar, hopen, hlast⟩ := h.places_append i
  rw [StartsCommentAt, hchar, hopen, hlast, StartsCommentAt]

theorem opensQuotesAlike (halike : OpensQuotesAlike quote previous (a ++ rest)) :
    OpensQuotesAlike next (a.getLast?.or previous) rest := by
  intro i q hchar hopen
  obtain ⟨hchar', hopen', hlast⟩ := h.places_append i
  have hnext := (h.places_append (i + 1)).2.1
  rw [← hopen', ← hlast]
  exact halike (a.length + i) q (hchar'.trans hchar) (hnext.trans hopen)

/-- No comment starts within a step. -/
theorem not_startsCommentAt {i : Nat} (hi : i < a.length) :
    ¬StartsCommentAt quote previous (a ++ rest) i := by
  rintro ⟨hsign, hblank, hopen⟩
  cases h with
  | escape d =>
    -- what is escaped may be a number sign, but the quote is still open in front of it
    match i, hi with
    | 0, _ => cases hsign
    | 1, _ => rw [show (['\\', d] ++ rest).take 1 = ['\\'] from rfl,
        QuoteEnd.halfEscape.openQuoteFrom_eq] at hopen; cases hopen
  | doubled =>
    match i, hi with
    | 0, _ => cases hsign
    | 1, _ => cases hsign
  | inside stays free =>
    obtain rfl : i = 0 := by simpa using hi
    rw [List.take_zero, QuoteEnd.done.openQuoteFrom_eq] at hopen
    cases hopen
  | closing last =>
    obtain rfl : i = 0 := by simpa using hi
    rw [List.take_zero, QuoteEnd.done.openQuoteFrom_eq] at hopen
    cases hopen
  | opening q =>
    obtain rfl : i = 0 := by simpa using hi
    cases q <;> cases hsign
  | plain noQuote noComment =>
    obtain rfl : i = 0 := by simpa using hi
    obtain rfl := Option.some.inj hsign
    rw [List.take_zero] at hblank
    rw [show commentMayFollow previous = true from hblank] at noComment
    cases noComment

/-- If quotes open alike, the scan of comments takes the same step. -/
theorem beforeComment_append (halike : OpensQuotesAlike quote previous (a ++ rest)) :
    beforeComment (quote.map Quote.char) previous (a ++ rest) =
      a ++ beforeComment (next.map Quote.char) (a.getLast?.or previous) rest := by
  cases h with
  | escape d =>
    -- an escaped quote would end the quotes for the scan of comments
    have hd : d ≠ '"' := by
      rintro rfl
      have hescape : QuoteStep [] (some .double) previous ['\\', '"'] (some .double) := .escape '"'
      have hclosed := (halike 1 .double rfl
        (hescape.openQuoteFrom_append.trans QuoteEnd.done.openQuoteFrom_eq)).1
      cases (@QuoteEnd.halfEscape previous).openQuoteFrom_eq.symm.trans hclosed
    simp [beforeComment, Quote.char, hd]
  | doubled =>
    have hdoubled : QuoteStep [] (some .single) previous ['\'', '\''] (some .single) := .doubled
    have hfollows := (halike 1 .single rfl
      (hdoubled.openQuoteFrom_append.trans QuoteEnd.done.openQuoteFrom_eq)).2
    cases hfollows
  | @inside _ q c stays free => simp [beforeComment, stays]
  | @closing _ q last => simp [beforeComment]
  | opening q =>
    have hquote : isQuote q.char = true := by cases q <;> rfl
    cases htoken : tokenMayFollow previous with
    | true =>
      have hopening : QuoteStep [] none previous [q.char] (some q) := by
        have hstep := @QuoteStep.opening [] previous q
        rwa [htoken] at hstep
      have hfollows := (halike 0 q rfl
        (hopening.openQuoteFrom_append.trans QuoteEnd.done.openQuoteFrom_eq)).2
      simp [beforeComment, hquote, show quoteMayFollow previous = true from hfollows]
    | false =>
      have hfollows : quoteMayFollow previous = false := by
        by_contra hquoted
        rw [tokenMayFollow_of_quoteMayFollow (by simpa using hquoted)] at htoken
        cases htoken
      have hsign : (q.char == '#') = false := by cases q <;> rfl
      simp [beforeComment, hfollows, hsign]
  | plain noQuote noComment => simp [beforeComment, noQuote, noComment]

end QuoteStep

/-- As long as quotes open alike, both scans stop at the same place. -/
theorem stopsAt_length_beforeComment (halike : OpensQuotesAlike quote previous t) :
    StopsAt quote previous t (beforeComment (quote.map Quote.char) previous t).length := by
  induction quote, previous, t using quoteScan_induction with
  | @ends quote previous t h =>
    cases h with
    | done => exact ⟨.inl rfl, fun i hi => absurd hi (Nat.not_lt_zero i)⟩
    | halfEscape =>
      refine ⟨.inl rfl, fun i hi hstart => ?_⟩
      obtain rfl : i = 0 := by simpa [beforeComment] using hi
      cases hstart.1
    | comment follows =>
      have hread (rest : Text) : beforeComment none previous ('#' :: rest) = [] := by
        simp [beforeComment, follows, isQuote]
      rw [Option.map_none, hread]
      exact ⟨.inr ⟨rfl, follows, QuoteEnd.done.openQuoteFrom_eq⟩, fun i hi => absurd hi i.not_lt_zero⟩
  | @step quote previous a b next h ih =>
    have hrest := ih (h.opensQuotesAlike halike)
    rw [h.beforeComment_append halike, List.length_append]
    constructor
    · exact hrest.stop.imp (fun hlength => by rw [hlength, List.length_append])
        (h.startsCommentAt_iff _).mpr
    · intro i hi hstart
      rcases Nat.lt_or_ge i a.length with hin | hbehind
      · exact h.not_startsCommentAt hin hstart
      · obtain ⟨j, rfl⟩ := Nat.exists_eq_add_of_le hbehind
        exact hrest.first j (by omega) ((h.startsCommentAt_iff j).mp hstart)

end Text

/-- **Both scans see one comment.** The check of quotes reads a text up to one place, the first number
sign outside of quotes that nothing or a space or tab is in front of, or the end; what comes after has
no part in it. If every quote on the way opens for both scans alike, then the text less its comment is
what the check reads, but for blanks at the end. -/
theorem comment_cut_where_quotes_stop (t : Text) :
    ∃ p, (∀ n, Text.StopsAt none none t n ↔ n = p) ∧
      t.openQuote? = Text.openQuote? (t.take p) ∧
      (Text.OpensQuotesAlike none none t → t.withoutComment = Text.trimEnd (t.take p)) := by
  obtain ⟨p, hp⟩ := Text.exists_stopsAt none none t
  refine ⟨p, fun n => ⟨fun hn => (hn.le hp).antisymm (hp.le hn), fun hn => hn ▸ hp⟩,
    hp.openQuoteFrom_take, fun halike => ?_⟩
  have hstop := Text.stopsAt_length_beforeComment halike
  have hlength : (Text.beforeComment none none t).length = p := (hstop.le hp).antisymm (hp.le hstop)
  have hprefix := Text.isPrefix_beforeComment t none none
  rw [Text.withoutComment, List.prefix_iff_eq_take.mp hprefix, hlength]

/-- Quotes of one kind within the other, an empty text in quotes and an escaped backslash open alike,
and so does a quote within a word. -/
theorem comment_cut_behind_quotes :
    let t : Text := "['\"# ', '', \"\\\\\"] it's # \"".toList
    Text.OpensQuotesAlike none none t ∧
      ∃ p, Text.StopsAt none none t p ∧ t.withoutComment = Text.trimEnd (t.take p) := by
  intro t
  have halike : Text.OpensQuotesAlike none none t := by
    have hbelow : ∀ i < t.length, ∀ q ∈ [Quote.double, .single], t[i]? = some q.char →
        Text.openQuoteFrom none none (t.take (i + 1)) = some q →
          Text.openQuoteFrom none none (t.take i) = none ∧
            Text.quoteMayFollow ((t.take i).getLast?.or none) = true := by decide +kernel
    intro i q hchar
    exact hbelow i (List.getElem?_eq_some_iff.mp hchar).1 q (by cases q <;> simp) hchar
  obtain ⟨p, hp, -, hcut⟩ := comment_cut_where_quotes_stop t
  exact ⟨halike, p, (hp p).mpr rfl, hcut halike⟩

/-- Text in quotes that is cut off for a comment: behind an escaped quote, behind a doubled one, and
in quotes that open behind a brace. The check of quotes reads each of these texts to its end. -/
theorem quoted_text_cut_as_comment :
    let cuts (t : Text) : Prop :=
      Text.StopsAt none none t t.length ∧ t.withoutComment ≠ Text.trimEnd (t.take t.length)
    cuts "\"a\\\" # b\"".toList ∧ cuts "'it''s # b'".toList ∧
      cuts "\x7b\"a # b\"\x7d".toList := by
  have hcuts : ∀ t ∈ ["\"a\\\" # b\"".toList, "'it''s # b'".toList, "\x7b\"a # b\"\x7d".toList],
      (∀ i < t.length, ¬Text.StartsCommentAt none none t i) ∧
        Text.withoutComment t ≠ Text.trimEnd (t.take t.length) := by
    decide +kernel
  simp only [List.forall_mem_cons] at hcuts
  obtain ⟨hescaped, hdoubled, hbrace, -⟩ := hcuts
  exact ⟨⟨⟨.inl rfl, hescaped.1⟩, hescaped.2⟩, ⟨⟨.inl rfl, hdoubled.1⟩, hdoubled.2⟩,
    ⟨.inl rfl, hbrace.1⟩, hbrace.2⟩

end ComposeLint
