import ComposeLint.Line.Basic
import ComposeLint.Proofs.Text.Characters
import ComposeLint.Proofs.Text.Ends

/-! # Reading a mapping line

What the comment scan and the key reader make of a text that starts with plain characters. A blank
in front of a value is forgotten by the scan, so the value has the same comment on its own as it
has in its line. -/

namespace ComposeLint

namespace Text

/-! ## Comments -/

/-- The quote that is open behind a character, after `previous` and inside of `quote` if there is
one. -/
def quoteAfter (quote previous : Option Char) (c : Char) : Option Char :=
  match quote with
  | some q => if c == q then none else some q
  | none => if isQuote c && quoteMayFollow previous then some c else none

/-- A step of the scan: it ends at the start of a comment and keeps any other character. -/
theorem beforeComment_cons (quote previous : Option Char) (c : Char) (rest : Text) :
    beforeComment quote previous (c :: rest) =
      if quote = none ∧ c = '#' ∧ commentMayFollow previous = true then []
      else c :: beforeComment (quoteAfter quote previous c) (some c) rest := by
  cases quote with
  | some q => simp [beforeComment, quoteAfter]
  | none =>
    by_cases hsign : c = '#'
    · subst hsign
      cases hfollows : commentMayFollow previous <;>
        simp [beforeComment, quoteAfter, isQuote, hfollows]
    · cases hquote : isQuote c && quoteMayFollow previous <;>
        simp [beforeComment, quoteAfter, hquote, hsign]

/-- A comment and what follows it is cut off at the end. -/
theorem isPrefix_beforeComment (t : Text) : ∀ quote previous,
    beforeComment quote previous t <+: t := by
  induction t with
  | nil => exact fun _ _ => List.prefix_refl []
  | cons c rest ih =>
    intro quote previous
    rw [beforeComment_cons]
    split
    · exact List.nil_prefix
    · exact (List.prefix_cons_inj c).mpr (ih _ _)

theorem isPrefix_withoutComment (t : Text) : t.withoutComment <+: t :=
  (List.rdropWhile_prefix isBlank _).trans (isPrefix_beforeComment t none none)

/-- A text without number signs has no comment. -/
theorem beforeComment_eq_self {t : Text} (h : '#' ∉ t) : ∀ quote previous,
    beforeComment quote previous t = t := by
  induction t with
  | nil => exact fun _ _ => rfl
  | cons c rest ih =>
    intro quote previous
    obtain ⟨hc, hrest⟩ := not_or.mp (mt List.mem_cons.mpr h)
    rw [beforeComment_cons, if_neg fun hsign => hc hsign.2.1.symm, ih hrest]

/-- Neither a quote nor the sign of a comment. -/
def isPlain (c : Char) : Bool := !isQuote c && c != '#'

/-- What came before is the last character that was read, if there is one. -/
theorem getLast?_cons_or (c : Char) (rest : Text) (previous : Option Char) :
    (c :: rest).getLast?.or previous = rest.getLast?.or (some c) := by
  cases rest with
  | nil => rfl
  | cons d rest => simp [List.getLast?_cons]

theorem beforeComment_append {a : Text} (h : ∀ c ∈ a, isPlain c = true) (b : Text) :
    ∀ previous, beforeComment none previous (a ++ b) =
      a ++ beforeComment none (a.getLast?.or previous) b := by
  induction a with
  | nil => exact fun _ => rfl
  | cons c rest ih =>
    intro previous
    have hc : isQuote c = false ∧ c ≠ '#' := by simpa [isPlain] using h c (by simp)
    rw [List.cons_append, beforeComment, ih fun d hd => h d (by simp [hd]), getLast?_cons_or]
    simp [hc.1, hc.2]

theorem beforeComment_plain {t : Text} (h : ∀ c ∈ t, isPlain c = true) (previous : Option Char) :
    beforeComment none previous t = t := by
  have happend := beforeComment_append h [] previous
  rwa [List.append_nil, beforeComment, List.append_nil] at happend

/-- A plain text is all there is to it but for the blanks at its end. -/
theorem withoutComment_plain {t : Text} (h : ∀ c ∈ t, isPlain c = true) :
    t.withoutComment = t.trimEnd := by
  rw [withoutComment, beforeComment_plain h]

/-- After a space or a tab the scan is where it was at the start. -/
theorem beforeComment_after_space {c : Char} (hc : isSpaceOrTab c = true) (t : Text) :
    beforeComment none (some c) t = beforeComment none none t := by
  cases t with
  | nil => rfl
  | cons d rest =>
    have hquote : quoteMayFollow (some c) = quoteMayFollow none := by
      rcases (by simpa [isSpaceOrTab] using hc : c = ' ' ∨ c = '\t') with rfl | rfl <;> decide
    have hcomment : commentMayFollow (some c) = commentMayFollow none := by
      simp [commentMayFollow, hc]
    rw [beforeComment, beforeComment, hquote, hcomment]

theorem isPlain_of_isBlank {c : Char} (h : isBlank c = true) : isPlain c = true := by
  simp [isPlain, isQuote, ne_of_class h (d := '"') (by decide),
    ne_of_class h (d := '\'') (by decide), ne_of_class h (d := '#') (by decide)]

/-- A value has the comment that it has after its key and the blanks between them. -/
theorem beforeComment_skip_space {t : Text} (h : t.head?.any isSpaceOrTab = true)
    (previous : Option Char) : beforeComment none previous t =
      t.takeWhile isSpaceOrTab ++ beforeComment none none (t.dropWhile isSpaceOrTab) := by
  have hspace : ∀ c ∈ t.takeWhile isSpaceOrTab, isSpaceOrTab c = true := fun c hc =>
    List.mem_takeWhile_imp hc
  conv_lhs => rw [← List.takeWhile_append_dropWhile (p := isSpaceOrTab) (l := t)]
  rw [beforeComment_append fun c hc => isPlain_of_isBlank (isBlank_of_isSpaceOrTab (hspace c hc))]
  cases t with
  | nil => cases h
  | cons c rest =>
    have hc : isSpaceOrTab c = true := by simpa using h
    rw [List.takeWhile_cons_of_pos hc] at hspace ⊢
    rw [List.getLast?_eq_some_getLast (List.cons_ne_nil _ _), Option.some_or,
      beforeComment_after_space (hspace _ (List.getLast_mem _))]

end Text

/-! ## Keys -/

namespace KeyValue

theorem isBlank_eq_false_of_isKeyChar {c : Char} (h : isKeyChar c = true) :
    Text.isBlank c = false := by
  have hsigns : "_.$/\x7b\x7d\"'-".toList.all (!Text.isBlank ·) = true := by decide
  simp only [isKeyChar, Bool.or_eq_true] at h
  rcases h with (hletter | hfigure) | hsign
  · exact Text.isBlank_eq_false_of_isLetter hletter
  · rw [Text.isFigure_iff] at hfigure
    simp only [Text.isBlank, Bool.or_eq_false_iff, Bool.and_eq_false_iff, decide_eq_false_iff_not,
      beq_eq_false_iff_ne]
    omega
  · simpa using List.all_eq_true.mp hsigns c (by simpa using hsign)

/-- What is read depends on the text after the colon alone, once there is a key. -/
theorem read?_of_colon {t tail : Text} (hne : t.takeWhile isKeyChar ≠ [])
    (h : Text.trimStart (t.dropWhile isKeyChar) = ':' :: tail) : read? t =
      if tail.head?.any Text.isSpaceOrTab then
        (Text.singleLine? (tail.dropWhile Text.isSpaceOrTab)).map
          fun value => ⟨t.takeWhile isKeyChar, some value⟩
      else if tail.isEmpty || tail == ['\n'] then some ⟨t.takeWhile isKeyChar, none⟩
      else none := by
  unfold read?
  rw [h, if_neg (by simp [hne])]
  rfl

theorem read?_of_no_colon {t : Text}
    (h : (Text.trimStart (t.dropWhile isKeyChar)).head? ≠ some ':') : read? t = none := by
  unfold read?
  dsimp only
  split
  · rfl
  · split
    · next tail hcolon => exact absurd (by rw [hcolon]; rfl) h
    · rfl

/-- A name alone is no mapping. -/
theorem read?_eq_none {t : Text} (h : ∀ c ∈ t, isKeyChar c = true) : read? t = none := by
  rw [read?, List.dropWhile_eq_nil_iff.mpr h]
  simp [Text.trimStart]

/-- A key ends where blanks or the colon start, and the blanks end at the colon. -/
theorem parts_of_key {key gap : Text} (hkey : ∀ c ∈ key, isKeyChar c = true)
    (hgap : ∀ c ∈ gap, Text.isBlank c = true) (tail : Text) :
    let t := key ++ (gap ++ ':' :: tail)
    t.takeWhile isKeyChar = key ∧ (t.dropWhile isKeyChar).takeWhile Text.isBlank = gap ∧
      Text.trimStart (t.dropWhile isKeyChar) = ':' :: tail := by
  intro t
  have hstop : (gap ++ ':' :: tail).head?.any isKeyChar = false := by
    cases gap with
    | nil => rfl
    | cons c gap =>
      rw [List.cons_append, List.head?_cons, Option.any_some, Bool.eq_false_iff]
      intro hc
      have hblank := hgap c List.mem_cons_self
      rw [isBlank_eq_false_of_isKeyChar hc] at hblank
      cases hblank
  obtain ⟨htake, hdrop⟩ := Text.takeWhile_append_of_head? hstop key
  rw [List.takeWhile_eq_self_iff.mpr hkey] at htake
  rw [List.dropWhile_eq_nil_iff.mpr hkey, List.nil_append] at hdrop
  have hcolon : (':' :: tail).head?.any Text.isBlank = false := rfl
  obtain ⟨hblanks, htail⟩ := Text.takeWhile_append_of_head? hcolon gap
  rw [List.takeWhile_eq_self_iff.mpr hgap] at hblanks
  rw [List.dropWhile_eq_nil_iff.mpr hgap, List.nil_append] at htail
  exact ⟨htake, by rw [hdrop, hblanks], by rw [hdrop, Text.trimStart, htail]⟩

/-- The key reader stops at the colon after the key. -/
theorem read?_append_colon {key : Text} (hne : key ≠ []) (hkey : ∀ c ∈ key, isKeyChar c = true)
    (tail : Text) : read? (key ++ ':' :: tail) =
      if tail.head?.any Text.isSpaceOrTab then
        (Text.singleLine? (tail.dropWhile Text.isSpaceOrTab)).map fun value => ⟨key, some value⟩
      else if tail.isEmpty || tail == ['\n'] then some ⟨key, none⟩
      else none := by
  obtain ⟨htake, -, hcolon⟩ := @parts_of_key key [] hkey nofun tail
  rw [List.nil_append] at htake hcolon
  rw [read?_of_colon (by rwa [htake]) hcolon, htake]

theorem singleLine?_eq_some {t : Text} (h : '\n' ∉ t) : Text.singleLine? t = some t := by
  have hall : ∀ c ∈ t, (c != '\n') = true := by
    intro c hc
    rw [bne_iff_ne]
    exact fun he => h (he ▸ hc)
  have htake : t.takeWhile (· != '\n') = t := List.takeWhile_eq_self_iff.mpr hall
  have hdrop : t.dropWhile (· != '\n') = [] := List.dropWhile_eq_nil_iff.mpr hall
  rw [Text.singleLine?, htake, hdrop]

end KeyValue

theorem KeyValue.isKeyChar_of_isLetter {c : Char} (h : Text.isLetter c = true) :
    KeyValue.isKeyChar c = true := by
  simp [KeyValue.isKeyChar, h]

theorem Text.isPlain_of_isLetter {c : Char} (h : Text.isLetter c = true) :
    Text.isPlain c = true := by
  have hdouble := Text.ne_of_isLetter h (d := '"') (by decide)
  have hsingle := Text.ne_of_isLetter h (d := '\'') (by decide)
  have hcomment := Text.ne_of_isLetter h (d := '#') (by decide)
  simp [Text.isPlain, Text.isQuote, hdouble, hsingle, hcomment]

/-- Past the first three roles only the key reader decides. -/
theorem Role.ofTrimmed_eq_of_head {c : Char} {rest : Text} (hc : c ≠ '#' ∧ c ≠ '-') :
    Role.ofTrimmed (c :: rest) = (KeyValue.read? (c :: rest)).elim .unknown fun entry =>
      .mappingKey entry.key entry.value.withoutComment.trim := by
  unfold Role.ofTrimmed
  split
  · next h => cases h
  · next h => exact absurd (List.cons.inj h).1 hc.1
  · next h => exact absurd (List.cons.inj h).1 hc.2
  · cases KeyValue.read? (c :: rest) with
    | none => rfl
    | some entry => rfl

/-- A key that has nothing but a comment after its colon has no value. -/
theorem Role.ofTrimmed_bare {name tail : Text} (hne : name ≠ [])
    (hletter : ∀ c ∈ name, Text.isLetter c = true) (hnl : '\n' ∉ tail)
    (h : (name ++ ':' :: tail).withoutComment = name ++ [':']) :
    Role.ofTrimmed (name ++ ':' :: tail) = .mappingKey name [] ∨
      Role.ofTrimmed (name ++ ':' :: tail) = .unknown := by
  have hplain : ∀ c ∈ name ++ [':'], Text.isPlain c = true := by
    intro c hc
    rcases List.mem_append.mp hc with hc | hc
    · exact Text.isPlain_of_isLetter (hletter c hc)
    · rw [List.mem_singleton.mp hc]; decide
  have hblank : (Text.beforeComment none (some ':') tail).trimEnd = [] := by
    rw [List.append_cons, Text.withoutComment, Text.beforeComment_append hplain,
      List.getLast?_concat, Option.some_or, List.append_assoc, List.singleton_append, Text.trimEnd,
      Text.dropEndWhile_append_cons (by decide)] at h
    exact (List.cons.inj (List.append_cancel_left h)).2
  have hread := KeyValue.read?_append_colon hne
    (fun c hc => KeyValue.isKeyChar_of_isLetter (hletter c hc)) tail
  obtain ⟨c, rest, rfl⟩ := List.exists_cons_of_ne_nil hne
  have hc := hletter c List.mem_cons_self
  rw [List.cons_append, Role.ofTrimmed_eq_of_head
    ⟨Text.ne_of_isLetter hc (by decide), Text.ne_of_isLetter hc (by decide)⟩,
    ← List.cons_append, hread]
  split
  · next hspace =>
    left
    have hnl' : '\n' ∉ tail.dropWhile Text.isSpaceOrTab := fun hmem =>
      hnl ((List.dropWhile_sublist _).mem hmem)
    have hvalue : Text.withoutComment (tail.dropWhile Text.isSpaceOrTab) = [] := by
      rw [Text.beforeComment_skip_space hspace, Text.trimEnd_eq_nil_iff] at hblank
      rw [Text.withoutComment, Text.trimEnd_eq_nil_iff]
      exact fun d hd => hblank d (List.mem_append_right _ hd)
    rw [KeyValue.singleLine?_eq_some hnl', Option.map_some, Option.elim_some, KeyValue.value,
      Option.getD_some, hvalue]
    rfl
  · split
    · left; rfl
    · right; rfl

end ComposeLint
