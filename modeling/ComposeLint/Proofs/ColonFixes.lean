import ComposeLint.Proofs.Check.LineForm
import ComposeLint.Proofs.Check.Lookups
import ComposeLint.Proofs.Document.Replaced
import ComposeLint.Proofs.Quoting.Line

/-! # Putting colons right

The line check says where a blank is missing after a colon, and which name lacks its colon. It finds
both in the text of the line without its comment, with a narrower idea of a key than that of the key
reader, and tells the place in the line as it is. Following the advice gives a line that is a mapping
of the key that was named, on the margin of the old line, and the check has no more to say of its
colon (`colon_fixes_work`). -/

namespace ComposeLint

/-- The text with another line in the place of one of its own. -/
def Text.withLine (t : Text) (index : Nat) (line : Text) : Text :=
  joinWith "\n" ((t.splitOn '\n').set index line)

/-- The line `l` with `fixed` for its text is a mapping of this key and value, and its margin is as it
was. -/
structure Line.IsPutRightBy (l : Line) (fixed key value : Text) : Prop where
  role : (ofText l.number fixed).role = .mappingKey key value
  indent : (ofText l.number fixed).indent = l.indent
  hasTabMargin : (ofText l.number fixed).hasTabMargin = l.hasTabMargin
  hasMixedMargin : (ofText l.number fixed).hasMixedMargin = l.hasMixedMargin

/-- In the text with `fixed` in the place of the line `l`, that line is read for itself, and no issue
about its colon is left. -/
structure Document.IsPutRightAt (text : Text) (index : Nat) (l : Line) (fixed : Text) : Prop where
  line : (ofText (text.withLine index fixed))[index]? = some (Line.ofText l.number fixed)
  clean : ∀ i ∈ Check.syntaxIssues (ofText (text.withLine index fixed)),
    i.place.line? = some l.number → ¬Check.IsAboutColon i.code

/-! ## Keys -/

namespace Check

theorem isKeyChar_of_isIdentifierChar {c : Char} (h : isIdentifierChar c = true) :
    KeyValue.isKeyChar c = true := by
  simp only [isIdentifierChar, isIdentifierStart, Bool.or_eq_true, beq_iff_eq] at h
  rcases h with (((hletter | rfl) | hfigure) | rfl) | rfl
  · exact KeyValue.isKeyChar_of_isLetter hletter
  · decide
  · simp [KeyValue.isKeyChar, hfigure]
  · decide
  · decide

theorem isKey_of_isIdentifier {key : Text} (h : isIdentifier key = true) : key.IsKey := by
  refine ⟨?_, fun c hc => isKeyChar_of_isIdentifierChar (isIdentifierChar_of_mem h hc)⟩
  cases key with
  | nil => cases h
  | cons c rest =>
    have hstart : isIdentifierStart c = true := (Bool.and_eq_true_iff.mp h).1
    exact ⟨c, rest, rfl, Text.ne_of_class hstart (by decide), Text.ne_of_class hstart (by decide)⟩

end Check

namespace Text

variable {c : Char}

theorem IsKey.isBlank_eq_false {key : Text} (h : key.IsKey) (hc : c ∈ key) : isBlank c = false :=
  KeyValue.isBlank_eq_false_of_isKeyChar (h.2 c hc)

/-- A run at the start of a text ends before the first character that is not of its kind. -/
theorem takeWhile_append_cons {p : Char → Bool} (hc : p c = false) (front rest : Text) :
    (front ++ c :: rest).takeWhile p = front.takeWhile p :=
  (takeWhile_append_of_head? (by simpa using hc) front).1

theorem trim_withoutComment_cons (hc : isBlank c = false) (rest : Text) :
    trim (withoutComment (c :: rest)) = withoutComment (c :: rest) := by
  have hprefix := isPrefix_withoutComment (c :: rest)
  have hstart : trimStart (withoutComment (c :: rest)) = withoutComment (c :: rest) := by
    cases hcut : withoutComment (c :: rest) with
    | nil => rfl
    | cons d others =>
      obtain ⟨tail, htail⟩ := hcut ▸ hprefix
      obtain rfl : d = c := (List.cons.inj htail).1
      rw [trimStart, List.dropWhile_cons_of_neg (by simp [hc])]
  rw [trim, hstart, withoutComment, trimEnd_trimEnd]

end Text

/-! ## The line put right -/

namespace Line

variable {l : Line} {c : Char} {front key value : Text}

/-- What stands behind the first character that is no blank has no part in the margin. -/
theorem isPutRightBy_of_role {rest rest' : Text} (hc : Text.isBlank c = false)
    (hraw : l.raw = front ++ c :: rest)
    (hrole : (ofText l.number (front ++ c :: rest')).role = .mappingKey key value) :
    l.IsPutRightBy (front ++ c :: rest') key value := by
  have hreturn : (c == '\r') = false :=
    beq_eq_false_iff_ne.mpr fun heq => by rw [heq, Text.isBlank_carriageReturn] at hc; cases hc
  have hspace : (c == ' ') = false :=
    beq_eq_false_iff_ne.mpr fun heq => by rw [heq] at hc; exact absurd hc (by decide)
  have hfixed : (ofText l.number (front ++ c :: rest')).raw =
      front ++ c :: rest'.dropEndWhile (· == '\r') :=
    Text.dropEndWhile_append_cons (p := (· == '\r')) hreturn _ _
  have hindent : (ofText l.number (front ++ c :: rest')).indent = l.indent := by
    have hcut (tail : Text) := Text.takeWhile_append_cons (p := (· == ' ')) hspace front tail
    rw [indent, indent, hfixed, hraw, hcut, hcut]
  have hmargin : (ofText l.number (front ++ c :: rest')).margin = l.margin := by
    have hcut := Text.takeWhile_append_cons (Text.isSpaceOrTab_eq_false_of_isBlank hc) front
    rw [margin, margin, hfixed, hraw, hcut, hcut]
  refine ⟨hrole, hindent, ?_, ?_⟩
  · rw [hasTabMargin, hasTabMargin, hmargin]
  · rw [hasMixedMargin, hasMixedMargin, hasTabMargin, hasTabMargin, hmargin]

/-- A glued value, with a space in front of it. -/
theorem isPutRightBy_spaced {margin rest : Text} (hmargin : ∀ d ∈ margin, Text.isBlank d = true)
    (hkey : key.IsKey) (hc : Text.isBlank c = false)
    (hraw : l.raw = margin ++ key ++ ':' :: c :: rest) (hnl : '\n' ∉ l.raw) :
    l.IsPutRightBy (margin ++ key ++ ':' :: ' ' :: c :: rest) key
      (Text.withoutComment (c :: rest)) := by
  have hlead : Text.LeadsTo key (margin ++ (key ++ ([] ++ ':' :: [' ']))) :=
    .intro hmargin hkey nofun (List.cons_ne_nil _ _) (List.all_eq_true.mp (by decide))
  have hnl' : '\n' ∉ c :: rest := fun hmem => hnl (by rw [hraw]; simp [hmem])
  have hrole : (ofText l.number (margin ++ key ++ ':' :: ' ' :: c :: rest)).role =
      .mappingKey key (Text.withoutComment (c :: rest)) := by
    rw [role, trimmed_ofText, ← Text.trim_withoutComment_cons hc, ← hlead.role_append hc hnl']
    simp
  obtain ⟨d, others, rfl, -⟩ := hkey.1
  have hd := hkey.isBlank_eq_false List.mem_cons_self
  rw [List.append_assoc, List.cons_append] at hraw hrole ⊢
  exact isPutRightBy_of_role hd hraw hrole

/-- A name alone, with a colon behind it. -/
theorem isPutRightBy_colon {before after : Text} (hbefore : ∀ d ∈ before, Text.isBlank d = true)
    (hafter : ∀ d ∈ after, Text.isBlank d = true) (hkey : key.IsKey)
    (hraw : l.raw = before ++ key ++ after) :
    l.IsPutRightBy (before ++ key ++ ':' :: after) key [] := by
  obtain ⟨⟨d, others, hcons, hd⟩, hchars⟩ := hkey
  have hblank : Text.isBlank d = false :=
    KeyValue.isBlank_eq_false_of_isKeyChar (hchars d (hcons ▸ List.mem_cons_self))
  have htrim : Text.trim (before ++ key ++ ':' :: after) = key ++ ([] ++ ':' :: []) := by
    have hend : Text.trimEnd (key ++ [':']) = key ++ [':'] :=
      Text.dropEndWhile_append_cons (by decide) key []
    rw [List.append_assoc, Text.trim_blank_append hbefore, List.append_cons,
      Text.trim_append_blank hafter, Text.trim, Text.trimStart, hcons, List.cons_append,
      List.dropWhile_cons_of_neg (by simp [hblank]), ← List.cons_append, ← hcons, hend,
      List.nil_append]
  have hrole : (ofText l.number (before ++ key ++ ':' :: after)).role = .mappingKey key [] := by
    have hnone : ∀ d ∈ ([] : Text), Text.isBlank d = true := List.forall_mem_nil _
    rw [role, trimmed_ofText, htrim, Role.ofTrimmed_keyed_gap hcons hd hchars hnone]
    rfl
  rw [hcons, List.append_assoc, List.cons_append] at hraw
  rw [hcons, List.append_assoc, List.cons_append] at hrole ⊢
  exact isPutRightBy_of_role hblank hraw hrole

end Line

/-! ## The line in its document -/

namespace Check

variable {text : Text} {i : Issue}

theorem line?_of_mem_colonIssues {l : Line} (h : i ∈ colonIssues l) :
    i.place.line? = some l.number := by
  rcases cases_of_mem_colonIssues h with ⟨key, -, rfl⟩ | ⟨-, rfl⟩ <;> rfl

/-- An issue about a colon is found at a line of no known role. -/
theorem exists_line_of_isAboutColon (hi : i ∈ syntaxIssues (Document.ofText text))
    (hcode : IsAboutColon i.code) : ∃ (index : Nat) (l : Line),
      (Document.ofText text)[index]? = some l ∧ l.inScalar = false ∧ l.role = .unknown ∧
      i ∈ colonIssues l := by
  rcases mem_syntaxIssues_iff.mp hi with ⟨l, hl, hline⟩ | hrepeat
  · obtain ⟨index, hindex⟩ := List.mem_iff_getElem?.mp hl
    exact ⟨index, l, hindex, mem_colonIssues_of_mem_lineIssues hline hcode⟩
  · rw [IsAboutColon, code_of_mem_duplicateKeyIssues hrepeat] at hcode
    rcases hcode with hcode | hcode <;> cases hcode

/-- A missing blank is told by the key and the column of the colon. -/
theorem exists_line_of_gluedColon (hi : i ∈ syntaxIssues (Document.ofText text))
    (hcode : i.code = .yamlColonSpacing) : ∃ (index : Nat) (l : Line) (key : Text),
      (Document.ofText text)[index]? = some l ∧ l.inScalar = false ∧ l.role = .unknown ∧
      gluedKey? l.trimmed.withoutComment = some key ∧
      i = (Finding.gluedColon key).issue
        { line? := some l.number, column? := some (colonColumn l.raw) } := by
  obtain ⟨index, l, hl, hfree, hrole, hcolon⟩ := exists_line_of_isAboutColon hi (.inl hcode)
  rcases cases_of_mem_colonIssues hcolon with ⟨key, hkey, hissue⟩ | ⟨-, rfl⟩
  · exact ⟨index, l, key, hl, hfree, hrole, hkey, hissue⟩
  · cases hcode

/-- A missing colon is told by the name that the line holds. -/
theorem exists_line_of_missingColon (hi : i ∈ syntaxIssues (Document.ofText text))
    (hcode : i.code = .yamlMissingColon) : ∃ (index : Nat) (l : Line) (key : Text),
      (Document.ofText text)[index]? = some l ∧ l.inScalar = false ∧ l.role = .unknown ∧
      isIdentifier key = true ∧ l.trimmed.withoutComment = key ∧
      i = (Finding.missingColon key).onLine l.number := by
  obtain ⟨index, l, hl, hfree, hrole, hcolon⟩ := exists_line_of_isAboutColon hi (.inr hcode)
  rcases cases_of_mem_colonIssues hcolon with ⟨key, -, rfl⟩ | ⟨hkey, hissue⟩
  · cases hcode
  · exact ⟨index, l, _, hl, hfree, hrole, hkey, rfl, hissue⟩

end Check

namespace Document

variable {text : Text} {index : Nat} {l : Line}

theorem isPutRightAt_of_line {fixed key value : Text} (hl : (ofText text)[index]? = some l)
    (hfree : l.inScalar = false) (hrole : l.role = .unknown) (hnl : '\n' ∉ fixed)
    (h : l.IsPutRightBy fixed key value) : IsPutRightAt text index l fixed := by
  have hindex : index < (text.splitOn '\n').length := by
    rw [← length_ofText]
    exact (List.getElem?_eq_some_iff.mp hl).1
  have hlines : text.splitOn '\n' = (text.splitOn '\n').take index ++
      (text.splitOn '\n')[index] :: (text.splitOn '\n').drop (index + 1) := by
    rw [← List.drop_eq_getElem_cons hindex, List.take_append_drop]
  have habove : ((text.splitOn '\n').take index).length = index :=
    List.length_take_of_le (Nat.le_of_lt hindex)
  have hblank : (Line.ofText l.number fixed).isBlank = l.isBlank := by
    rw [Line.isBlank, Line.isBlank, h.role, hrole]
    rfl
  have hline : (ofText (text.withLine index fixed))[index]? = some (Line.ofText l.number fixed) := by
    have hset := List.set_eq_take_append_cons_drop (l := text.splitOn '\n') (i := index) (a := fixed)
    rw [if_pos hindex] at hset
    have hnew := getElem?_ofText_replaced hlines hnl (habove.symm ▸ hl) hfree hblank h.indent
    rwa [habove, ← hset] at hnew
  refine ⟨hline, fun i hi hplace hcode => ?_⟩
  obtain ⟨k, m, hm, -, hunknown, hcolon⟩ := Check.exists_line_of_isAboutColon hi hcode
  have hnumber : m.number = l.number :=
    Option.some.inj ((Check.line?_of_mem_colonIssues hcolon).symm.trans hplace)
  have hsame : k = index := by
    have hk := number_of_getElem? hm
    have hold := number_of_getElem? hl
    omega
  subst hsame
  obtain rfl := Option.some.inj (hline.symm.trans hm)
  rw [h.role] at hunknown
  cases hunknown

end Document

/-! ## The text that is reported -/

namespace Check

theorem isPlain_of_isIdentifierChar {c : Char} (h : isIdentifierChar c = true) :
    Text.isPlain c = true := by
  simp [Text.isPlain, Text.isQuote, Text.ne_of_class h (d := '"') (by decide),
    Text.ne_of_class h (d := '\'') (by decide), Text.ne_of_class h (d := '#') (by decide)]

/-- The comment of a glued value is the one that it has on its own, unless it starts with the sign of
one: a comment may start a value, but it cannot follow a colon. -/
theorem withoutComment_glued {key : Text} (hkey : isIdentifier key = true) {c : Char} (hc : c ≠ '#')
    (rest : Text) : Text.withoutComment (key ++ ':' :: c :: rest) =
      key ++ ':' :: Text.withoutComment (c :: rest) := by
  have hplain : ∀ d ∈ key ++ [':'], Text.isPlain d = true := by
    intro d hd
    rcases List.mem_append.mp hd with hd | hd
    · exact isPlain_of_isIdentifierChar (isIdentifierChar_of_mem hkey hd)
    · rw [List.mem_singleton.mp hd]
      decide
  have hstart : Text.beforeComment none (some ':') (c :: rest) =
      Text.beforeComment none none (c :: rest) := by
    have hquote : Text.quoteMayFollow (some ':') = Text.quoteMayFollow none := by decide
    rw [Text.beforeComment, Text.beforeComment, hquote, beq_eq_false_iff_ne.mpr hc]
    rfl
  rw [List.append_cons, Text.withoutComment, Text.beforeComment_append hplain, List.getLast?_concat,
    Option.some_or, hstart, List.append_assoc, List.singleton_append, Text.trimEnd,
    Text.dropEndWhile_append_cons (by decide), Text.withoutComment, Text.trimEnd]

end Check

/-- The reported text of a line with a glued value. -/
theorem Line.withoutComment_trimmed {l : Line} {margin key : Text} {c : Char} {rest : Text}
    (hmargin : ∀ d ∈ margin, Text.isBlank d = true) (hkey : Check.isIdentifier key = true)
    (hraw : l.raw = margin ++ key ++ ':' :: c :: rest) (hc : c ≠ '#') :
    l.trimmed.withoutComment = key ++ ':' :: Text.withoutComment (c :: rest) := by
  have hisKey := Check.isKey_of_isIdentifier hkey
  have htrim : l.trimmed = Text.trimEnd (key ++ ':' :: c :: rest) := by
    obtain ⟨d, others, rfl, -⟩ := hisKey.1
    have hd := hisKey.isBlank_eq_false List.mem_cons_self
    rw [trimmed, hraw, List.append_assoc, Text.trim_blank_append hmargin, Text.trim, Text.trimStart,
      List.cons_append, List.dropWhile_cons_of_neg (by simp [hd])]
  rw [htrim, Text.withoutComment_trimEnd, Check.withoutComment_glued hkey hc]

/-- A line without number signs is its name with blanks around it. -/
theorem Line.trimmed_eq_of_withoutComment {l : Line} {key : Text} (hsign : '#' ∉ l.raw)
    (h : l.trimmed.withoutComment = key) : l.trimmed = key := by
  have hnone : '#' ∉ l.trimmed := fun hmem =>
    hsign ((List.dropWhile_sublist _).mem (Text.mem_of_mem_dropEndWhile hmem))
  rw [← h, Text.withoutComment, Text.beforeComment_eq_self hnone, trimmed, Text.trim,
    Text.trimEnd_trimEnd]

/-! ## The advice -/

namespace Document

variable {text : Text} {index : Nat} {l : Line} {key : Text}

/-- A space behind the colon, where a value is glued to it. -/
theorem isPutRightAt_spaced {margin rest : Text} {c : Char} (hl : (ofText text)[index]? = some l)
    (hfree : l.inScalar = false) (hrole : l.role = .unknown)
    (hmargin : ∀ d ∈ margin, Text.isBlank d = true) (hkey : key.IsKey)
    (hc : Text.isBlank c = false) (hraw : l.raw = margin ++ key ++ ':' :: c :: rest) :
    let fixed := margin ++ key ++ ':' :: ' ' :: c :: rest
    l.IsPutRightBy fixed key (Text.withoutComment (c :: rest)) ∧
      IsPutRightAt text index l fixed := by
  intro fixed
  have hnl := newline_not_mem_raw (List.mem_of_getElem? hl)
  have hright : l.IsPutRightBy fixed key (Text.withoutComment (c :: rest)) :=
    Line.isPutRightBy_spaced hmargin hkey hc hraw hnl
  refine ⟨hright, isPutRightAt_of_line hl hfree hrole ?_ hright⟩
  rw [hraw] at hnl
  simpa [fixed] using hnl

/-- A colon behind the name, where the line is no more than that. -/
theorem isPutRightAt_colon {before after : Text} (hl : (ofText text)[index]? = some l)
    (hfree : l.inScalar = false) (hrole : l.role = .unknown) (hkey : key.IsKey)
    (htrim : l.trimmed = key) (hraw : l.raw = before ++ key ++ after) :
    let fixed := before ++ key ++ ':' :: after
    l.IsPutRightBy fixed key [] ∧ IsPutRightAt text index l fixed := by
  intro fixed
  have hnl := newline_not_mem_raw (List.mem_of_getElem? hl)
  obtain ⟨hbefore, hafter⟩ := Text.isBlank_around (fun c => hkey.isBlank_eq_false)
    (hraw ▸ htrim : Text.trim (before ++ key ++ after) = key)
  have hright : l.IsPutRightBy fixed key [] :=
    Line.isPutRightBy_colon hbefore hafter hkey hraw
  refine ⟨hright, isPutRightAt_of_line hl hfree hrole ?_ hright⟩
  rw [hraw] at hnl
  simpa [fixed] using hnl

end Document

/-- **Advice about colons works.** Where a blank is missing after a colon, the issue tells the key and
the column of the colon. A space behind that many characters of the line makes it a mapping of the
key and of what followed the colon, less its comment; this is the value that the reported text has,
unless it starts with a number sign. Where the colon is missing, the issue tells the name, and unless
the line has a number sign, the name is all of it but for blanks; with a colon behind the name, the
line is a mapping of it without a value. Both leave the margin of the line as it is, and in the text
with the new line in its place nothing is said of its colon any more. -/
theorem colon_fixes_work (text : Text) :
    let doc := Document.ofText text
    (∀ i ∈ Check.syntaxIssues doc, i.code = .yamlColonSpacing →
      ∃ (index : Nat) (l : Line) (key : Text) (column : Nat), doc[index]? = some l ∧
        i = (Finding.gluedColon key).issue { line? := some l.number, column? := some column } ∧
        let fixed := l.raw.take column ++ ' ' :: l.raw.drop column
        let value := Text.withoutComment (l.raw.drop column)
        l.IsPutRightBy fixed key value ∧ Document.IsPutRightAt text index l fixed ∧
          (l.raw[column]? ≠ some '#' → l.trimmed.withoutComment = key ++ ':' :: value)) ∧
    ∀ i ∈ Check.syntaxIssues doc, i.code = .yamlMissingColon →
      ∃ (index : Nat) (l : Line) (key : Text), doc[index]? = some l ∧
        i = (Finding.missingColon key).onLine l.number ∧
        ('#' ∉ l.raw → (∃ before after, l.raw = before ++ key ++ after) ∧
          ∀ before after, l.raw = before ++ key ++ after →
            let fixed := before ++ key ++ ':' :: after
            l.IsPutRightBy fixed key [] ∧ Document.IsPutRightAt text index l fixed) := by
  refine ⟨fun i hi hcode => ?_, fun i hi hcode => ?_⟩
  · obtain ⟨index, l, key, hl, hfree, hrole, hglued, hissue⟩ :=
      Check.exists_line_of_gluedColon hi hcode
    obtain ⟨margin, c, rest, hraw, hmargin, hc, hcolumn⟩ := Check.line_of_gluedKey? hglued
    have hkey := (Check.exists_of_gluedKey? hglued).1
    have hcut : l.raw = (margin ++ key ++ [':']) ++ c :: rest := by simp [hraw]
    have hlength : (margin ++ key ++ [':']).length = margin.length + key.length + 1 := by
      rw [List.length_append, List.length_append, List.length_singleton]
    have htake : l.raw.take (margin.length + key.length + 1) = margin ++ key ++ [':'] := by
      rw [hcut, List.take_left' hlength]
    have hdrop : l.raw.drop (margin.length + key.length + 1) = c :: rest := by
      rw [hcut, List.drop_left' hlength]
    obtain ⟨hright, hclean⟩ := Document.isPutRightAt_spaced hl hfree hrole hmargin
      (Check.isKey_of_isIdentifier hkey) hc hraw
    refine ⟨index, l, key, margin.length + key.length + 1, hl, ?_, ?_⟩
    · rw [hissue, hcolumn]
      rfl
    · rw [htake, hdrop, ← List.append_cons]
      refine ⟨hright, hclean, fun hsign => ?_⟩
      refine Line.withoutComment_trimmed hmargin hkey hraw fun heq => hsign ?_
      rw [← List.head?_drop, hdrop, heq]
      rfl
  · obtain ⟨index, l, key, hl, hfree, hrole, hkey, htext, hissue⟩ :=
      Check.exists_line_of_missingColon hi hcode
    refine ⟨index, l, key, hl, hissue, fun hsign => ?_⟩
    have htrim := Line.trimmed_eq_of_withoutComment hsign htext
    constructor
    · obtain ⟨before, after, hraw, -⟩ := Text.exists_around_trim l.raw
      exact ⟨before, after, by rw [List.append_assoc, ← htrim]; exact hraw⟩
    · exact fun before after => Document.isPutRightAt_colon hl hfree hrole
        (Check.isKey_of_isIdentifier hkey) htrim

/-- A line with a glued value and a comment, and a name alone on an indented line. -/
theorem colon_fixes_work_on_both :
    let text : Text := "image:nginx # web\n  ports".toList
    let image : Line := ⟨1, "image:nginx # web".toList, false⟩
    let ports : Line := ⟨2, "  ports".toList, false⟩
    let glued := (Finding.gluedColon "image".toList).issue { line? := some 1, column? := some 6 }
    let missing := (Finding.missingColon "ports".toList).onLine 2
    (glued ∈ Check.syntaxIssues (Document.ofText text) ∧
      Document.IsPutRightAt text 0 image "image: nginx # web".toList) ∧
    missing ∈ Check.syntaxIssues (Document.ofText text) ∧
      Document.IsPutRightAt text 1 ports "  ports:".toList := by
  intro text image ports glued missing
  have hdoc : Document.ofText text = [image, ports] := by decide
  have hglued : glued ∈ Check.syntaxIssues (Document.ofText text) := by decide
  have hmissing : missing ∈ Check.syntaxIssues (Document.ofText text) := by decide
  obtain ⟨hspace, hcolon⟩ := colon_fixes_work text
  refine ⟨⟨hglued, ?_⟩, hmissing, ?_⟩
  · obtain ⟨index, l, key, column, hl, hissue, -, hright, -⟩ := hspace glued hglued rfl
    have hplace := congrArg Issue.place hissue
    have hnumber : (1 : Int) = l.number := Option.some.inj (congrArg Place.line? hplace)
    have hcolumn : (6 : Int) = column := Option.some.inj (congrArg Place.column? hplace)
    have hindex := Document.number_of_getElem? hl
    obtain rfl : index = 0 := by omega
    obtain rfl : column = 6 := by omega
    obtain rfl : image = l := Option.some.inj ((congrArg (·[0]?) hdoc).symm.trans hl)
    exact hright
  · obtain ⟨index, l, key, hl, hissue, hright⟩ := hcolon missing hmissing rfl
    have hnumber : (2 : Int) = l.number :=
      Option.some.inj (congrArg (fun i => i.place.line?) hissue)
    have hindex := Document.number_of_getElem? hl
    obtain rfl : index = 1 := by omega
    obtain rfl : ports = l := Option.some.inj ((congrArg (·[1]?) hdoc).symm.trans hl)
    obtain rfl : key = "ports".toList := by
      have hmessage : "Missing colon after key \"".toList ++ ("ports".toList ++ "\".".toList) =
          "Missing colon after key \"".toList ++ (key ++ "\".".toList) :=
        congrArg Issue.message hissue
      exact (List.append_cancel_right (List.append_cancel_left hmessage)).symm
    exact ((hright (by decide)).2 "  ".toList [] rfl).2

end ComposeLint
