import ComposeLint.Proofs.Line.Quotes

/-! # Quoted scalars are balanced

Quoting writes an escape for each character that would end the quotes or start an escape, so that
each character is one step of the scan for an open quote (`Quote.step_written`). The scan is never
between the two characters of an escape when it comes to the closing quote. -/

namespace ComposeLint

namespace Quote

/-- How a character is written inside of quotes. -/
def written : Quote → Char → Text
  | .double, c => if c == '\\' || c == '"' then ['\\', c] else [c]
  | .single, c => if c == '\'' then ['\'', '\''] else [c]

/-- A text in quotes but for the closing quote. -/
def unclosed (q : Quote) (t : Text) : Text := q.char :: t.flatMap q.written

/-- A text in quotes. -/
def quoted (q : Quote) (t : Text) : Text := q.unclosed t ++ [q.char]

theorem step_written (q : Quote) (c : Char) (rest : Text) (previous : Option Char) :
    Text.QuoteStep rest (some q) previous (q.written c) (some q) := by
  cases q with
  | double =>
    by_cases hc : (c == '\\' || c == '"') = true
    · rw [written, if_pos hc]
      exact .escape c
    · rw [written, if_neg hc]
      simp only [Bool.or_eq_true, beq_iff_eq, not_or] at hc
      exact .inside hc.2 fun _ => hc.1
  | single =>
    by_cases hc : (c == '\'') = true
    · rw [written, if_pos hc]
      exact .doubled
    · rw [written, if_neg hc]
      exact .inside (fun h => hc (beq_iff_eq.mpr h)) nofun

end Quote

namespace Text

/-- What is written inside of quotes leaves them open, whatever it is. -/
theorem openQuoteFrom_written (q : Quote) (t rest : Text) : ∀ previous,
    openQuoteFrom (some q) previous (t.flatMap q.written ++ rest) =
      openQuoteFrom (some q) previous rest := by
  induction t with
  | nil => exact fun _ => rfl
  | cons c t ih =>
    intro previous
    rw [List.flatMap_cons, List.append_assoc, (q.step_written c _ previous).openQuoteFrom_append, ih]
    exact openQuoteFrom_some q _ previous rest

/-- Behind a space a quote opens a quoted text. -/
theorem openQuoteFrom_unclosed (q : Quote) (t rest : Text) :
    openQuoteFrom none (some ' ') (q.unclosed t ++ rest) =
      openQuoteFrom (some q) (some q.char) rest := by
  have hopen : QuoteStep (t.flatMap q.written ++ rest) none (some ' ') [q.char] (some q) :=
    .opening q
  rw [Quote.unclosed, List.cons_append, ← List.singleton_append, hopen.openQuoteFrom_append,
    openQuoteFrom_written]
  rfl

/-- The closing quote closes: no second one follows it. -/
theorem openQuoteFrom_closed {q : Quote} {tail : Text}
    (htail : tail = [] ∨ ∃ comment, tail = ' ' :: '#' :: comment) (previous : Option Char) :
    openQuoteFrom (some q) previous ([q.char] ++ tail) = none := by
  have hclose : QuoteStep tail (some q) previous [q.char] none := by
    refine .closing fun _ => ?_
    rcases htail with rfl | ⟨comment, rfl⟩ <;> nofun
  rw [hclose.openQuoteFrom_append]
  rcases htail with rfl | ⟨comment, rfl⟩
  · exact QuoteEnd.done.openQuoteFrom_eq
  · have hblank : QuoteStep ('#' :: comment) none (some q.char) [' '] none := .plain rfl rfl
    exact hblank.openQuoteFrom_append.trans (QuoteEnd.comment rfl).openQuoteFrom_eq

end Text

/-- A character of a plain key. -/
def KeyValue.isWordChar (c : Char) : Bool := Text.isLetter c || Text.isFigure c || c == '_'

theorem KeyValue.isPlain_of_isWordChar {c : Char} (h : isWordChar c = true) :
    Text.isPlain c = true := by
  have hdouble := Text.ne_of_class h (d := '"') (by decide)
  have hsingle := Text.ne_of_class h (d := '\'') (by decide)
  have hcomment := Text.ne_of_class h (d := '#') (by decide)
  simp [Text.isPlain, Text.isQuote, hdouble, hsingle, hcomment]

/-- **Quoted scalars are balanced.** Write any text in quotes of either kind behind a key, with its
escapes, and nothing or a comment after it. The line leaves no quote open; without the closing quote
it leaves this quote open. -/
theorem quoted_scalar_is_balanced {key : Text} (hkey : ∀ c ∈ key, KeyValue.isWordChar c = true)
    (q : Quote) (t : Text) {tail : Text}
    (htail : tail = [] ∨ ∃ comment, tail = ' ' :: '#' :: comment) :
    (key ++ ": ".toList ++ q.quoted t ++ tail).openQuote? = none ∧
      (key ++ ": ".toList ++ q.unclosed t).openQuote? = some q := by
  -- both lines start with a plain key, the opening quote and the whole text
  have hstart (rest : Text) : (key ++ ": ".toList ++ (q.unclosed t ++ rest)).openQuote? =
      Text.openQuoteFrom (some q) (some q.char) rest := by
    have hplain : ∀ c ∈ key ++ ": ".toList, Text.isPlain c = true := by
      intro c hc
      rcases List.mem_append.mp hc with hc | hc
      · exact KeyValue.isPlain_of_isWordChar (hkey c hc)
      · exact List.all_eq_true.mp (by decide : ": ".toList.all Text.isPlain = true) c hc
    have hlast : (key ++ ": ".toList).getLast? = some ' ' := by
      rw [List.getLast?_append]
      rfl
    rw [Text.openQuote?, Text.openQuoteFrom_append_plain hplain, hlast, Option.some_or,
      Text.openQuoteFrom_unclosed]
  constructor
  · rw [Quote.quoted, List.append_assoc _ _ tail, List.append_assoc (q.unclosed t), hstart]
    exact Text.openQuoteFrom_closed htail _
  · have hopen := hstart []
    rwa [List.append_nil, Text.QuoteEnd.done.openQuoteFrom_eq] at hopen

/-- A text that ends with a backslash and a quote, before a comment with a quote in it. -/
theorem quoted_path_is_balanced :
    "dir: \"C:\\\\new \\\"x\\\\\\\"\" # it's".toList =
        "dir".toList ++ ": ".toList ++ Quote.double.quoted "C:\\new \"x\\\"".toList ++
          " # it's".toList ∧
      Text.openQuote? "dir: \"C:\\\\new \\\"x\\\\\\\"\" # it's".toList = none ∧
      Text.openQuote? "dir: \"C:\\\\new \\\"x\\\\\\\"".toList = some .double := by
  have hkey : ∀ c ∈ "dir".toList, KeyValue.isWordChar c = true :=
    List.all_eq_true.mp (by decide : "dir".toList.all KeyValue.isWordChar = true)
  have hbalanced := @quoted_scalar_is_balanced "dir".toList hkey .double
    "C:\\new \"x\\\"".toList " # it's".toList (.inr ⟨" it's".toList, by decide⟩)
  exact ⟨by decide, hbalanced.1, hbalanced.2⟩

end ComposeLint
