import ComposeLint.Proofs.Line.Reading
import ComposeLint.Stack.Reader

/-! # Rows

A row is a line as a printer writes it: a margin of spaces and then a key, a key with a value, or a
list item. A row of clean texts reads back as what it was made of, and opens no scalar. -/

namespace ComposeLint

namespace Text

def isBare (t : Text) : Bool := !t.isEmpty && t.all isBareChar

def isToken (t : Text) : Bool := !t.isEmpty && t.all isTokenChar

/-- A key that no reader takes for a list item. -/
def isKeyName (t : Text) : Bool := t.isBare && t.head? != some '-'

/-- A value without blanks around it. -/
def isValue (t : Text) : Bool :=
  t.all isValueChar && t.head?.any (!isBlank ·) && t.getLast?.any (!isBlank ·)

end Text

inductive Row
  | key (indent : Nat) (name : Text)
  | pair (indent : Nat) (name value : Text)
  | item (indent : Nat) (text : Text)
deriving DecidableEq, Repr

namespace Row

def indent : Row → Nat
  | key indent _ => indent
  | pair indent _ _ => indent
  | item indent _ => indent

/-- The row without its margin. -/
def written : Row → Text
  | key _ name => name ++ [':']
  | pair _ name value => name ++ ':' :: ' ' :: value
  | item _ text => '-' :: ' ' :: text

def text (r : Row) : Text := List.replicate r.indent ' ' ++ r.written

def role : Row → Role
  | key _ name => .mappingKey name []
  | pair _ name value => .mappingKey name value
  | item _ _ => .listItem

def isItem : Row → Bool
  | item _ _ => true
  | _ => false

def key? : Row → Option Text
  | key _ name => some name
  | pair _ name _ => some name
  | item _ _ => none

/-- The value of a pair, empty for any other row. -/
def value : Row → Text
  | pair _ _ value => value
  | _ => []

def isClean : Row → Bool
  | key _ name => name.isKeyName
  | pair _ name value => name.isKeyName && value.isValue
  | item _ text => text.isToken

/-- The row as a line of a document. -/
def line (n : Int) (r : Row) : Line := Line.ofText n r.text

end Row

/-! ## Words, tokens and values -/

namespace Text

variable {t : Text}

theorem isBare_iff : t.isBare = true ↔ t ≠ [] ∧ ∀ c ∈ t, isBareChar c = true := by
  simp [isBare]

theorem isToken_iff : t.isToken = true ↔ t ≠ [] ∧ ∀ c ∈ t, isTokenChar c = true := by
  simp [isToken]

theorem isToken_of_isBare (h : t.isBare = true) : t.isToken = true := by
  rw [isBare_iff] at h
  exact isToken_iff.mpr ⟨h.1, fun c hc => isTokenChar_of_isBareChar (h.2 c hc)⟩

theorem isKeyName_iff : t.isKeyName = true ↔ t.isBare = true ∧ t.head? ≠ some '-' := by
  simp [isKeyName]

theorem isValue_iff : t.isValue = true ↔ (∀ c ∈ t, isValueChar c = true) ∧
    t.head?.any (!isBlank ·) = true ∧ t.getLast?.any (!isBlank ·) = true := by
  simp [isValue, and_assoc]

theorem isValue_of_isToken (h : t.isToken = true) : t.isValue = true := by
  rw [isToken_iff] at h
  obtain ⟨hne, hall⟩ := h
  refine isValue_iff.mpr ⟨fun c hc => isValueChar_of_isTokenChar (hall c hc), ?_, ?_⟩
  · rw [List.head?_eq_some_head hne]
    simp [isBlank_eq_false_of_isTokenChar (hall _ (List.head_mem hne))]
  · rw [List.getLast?_eq_some_getLast hne]
    simp [isBlank_eq_false_of_isTokenChar (hall _ (List.getLast_mem hne))]

theorem isPlain_of_isValueChar {c : Char} (h : isValueChar c = true) : isPlain c = true := by
  simp [isPlain, isQuote, ne_of_class h (d := '"') (by decide),
    ne_of_class h (d := '\'') (by decide), ne_of_class h (d := '#') (by decide)]

/-- Nothing is cut from a text that has no blanks around it. -/
theorem trim_eq_self (hhead : t.head?.any (!isBlank ·) = true)
    (hlast : t.getLast?.any (!isBlank ·) = true) : t.trim = t := by
  have hstart : t.trimStart = t := by
    cases t with
    | nil => rfl
    | cons c rest => exact List.dropWhile_cons_of_neg (by simpa using hhead)
  rw [trim, hstart, trimEnd]
  refine dropEndWhile_eq_self fun c hc => ?_
  simpa [hc] using hlast

theorem trim_isValue (h : t.isValue = true) : t.trim = t :=
  trim_eq_self (isValue_iff.mp h).2.1 (isValue_iff.mp h).2.2

/-- No quote stands around a value, nor anything else that could be taken off. -/
theorem unquote_isValue (h : t.isValue = true) : t.unquote = t := by
  unfold unquote
  rw [trim_isValue h]
  dsimp only
  split
  · next c d rest =>
    have hplain := isPlain_of_isValueChar ((isValue_iff.mp h).1 c (by simp))
    have hquote : isQuote c = false := by
      simp only [isPlain, Bool.and_eq_true, Bool.not_eq_true'] at hplain
      exact hplain.1
    simp [hquote]
  · rfl

theorem withoutComment_isValue (h : t.isValue = true) : t.withoutComment = t := by
  have hplain : ∀ c ∈ t, isPlain c = true := fun c hc =>
    isPlain_of_isValueChar ((isValue_iff.mp h).1 c hc)
  rw [withoutComment_plain hplain]
  refine dropEndWhile_eq_self fun c hc => ?_
  simpa [hc] using (isValue_iff.mp h).2.2

theorem newline_not_mem_isValue (h : t.isValue = true) : '\n' ∉ t := fun hmem =>
  ne_of_class ((isValue_iff.mp h).1 _ hmem) (d := '\n') (by decide) rfl

theorem isScalarHeader_isValue (h : t.isValue = true) : Line.isScalarHeader t = false := by
  cases t with
  | nil => rfl
  | cons c rest =>
    have hc := (isValue_iff.mp h).1 c (by simp)
    simp [Line.isScalarHeader, ne_of_class hc (d := '|') (by decide),
      ne_of_class hc (d := '>') (by decide)]

theorem isKeyChar_of_isBareChar {c : Char} (h : isBareChar c = true) :
    KeyValue.isKeyChar c = true := by
  have hsigns : "_./-".toList.all KeyValue.isKeyChar = true := by decide
  by_cases hc : isLetter c = true ∨ isFigure c = true
  · simp only [KeyValue.isKeyChar, Bool.or_eq_true]
    exact Or.inl hc
  · refine List.all_eq_true.mp hsigns c ?_
    simpa [isBareChar, not_or.mp hc] using h

/-- Without a blank after it no colon separates a key from a value. -/
theorem value?_of_isToken (h : t.isToken = true) {entry : KeyValue}
    (hread : KeyValue.read? t = some entry) : entry.value? = none := by
  unfold KeyValue.read? at hread
  dsimp only at hread
  split at hread
  · cases hread
  · split at hread
    · next tail hcut =>
      have hsub : ∀ c ∈ tail, c ∈ t := fun c hc =>
        (List.dropWhile_sublist _).mem
          ((List.dropWhile_sublist _).mem (hcut ▸ List.mem_cons_of_mem _ hc))
      have hspace : tail.head?.any isSpaceOrTab = false := by
        cases tail with
        | nil => rfl
        | cons c rest =>
          have hc := (isToken_iff.mp h).2 c (hsub c (by simp))
          simp [isSpaceOrTab, ne_of_class hc (d := ' ') (by decide),
            ne_of_class hc (d := '\t') (by decide)]
      rw [hspace, if_neg (by simp)] at hread
      split at hread
      · cases hread
        rfl
      · cases hread
    · cases hread

theorem isMappingEntry_isToken (h : t.isToken = true) : t.isMappingEntry = false := by
  unfold isMappingEntry
  cases hread : KeyValue.read? t with
  | none => rfl
  | some entry => simp [value?_of_isToken h hread]

end Text

/-! ## Reading a row -/

/-- Behind the name of a key everything hangs on what follows its colon. -/
theorem Role.ofTrimmed_keyed {name : Text} (hname : name.isKeyName = true) (tail : Text) :
    Role.ofTrimmed (name ++ ':' :: tail) =
      (if tail.head?.any Text.isSpaceOrTab then
        (Text.singleLine? (tail.dropWhile Text.isSpaceOrTab)).map
          fun value => (⟨name, some value⟩ : KeyValue)
      else if tail.isEmpty || tail == ['\n'] then some ⟨name, none⟩
      else none).elim .unknown fun entry =>
        .mappingKey entry.key entry.value.withoutComment.trim := by
  obtain ⟨hbare, hdash⟩ := Text.isKeyName_iff.mp hname
  obtain ⟨hne, hall⟩ := Text.isBare_iff.mp hbare
  rw [← KeyValue.read?_append_colon hne (fun c hc => Text.isKeyChar_of_isBareChar (hall c hc))]
  obtain ⟨c, rest, rfl⟩ := List.exists_cons_of_ne_nil hne
  exact Role.ofTrimmed_eq_of_head
    ⟨Text.ne_of_class (hall c (by simp)) (by decide), by simpa using hdash⟩

/-- A name, a colon, a space and a value on one line. -/
theorem Role.ofTrimmed_pair {name value : Text} (hname : name.isKeyName = true)
    (hhead : value.head?.any Text.isSpaceOrTab = false) (hnl : '\n' ∉ value) :
    Role.ofTrimmed (name ++ ':' :: ' ' :: value) = .mappingKey name value.withoutComment.trim := by
  have hdrop : (' ' :: value).dropWhile Text.isSpaceOrTab = value := by
    rw [List.dropWhile_cons_of_pos (by decide)]
    exact (Text.takeWhile_append_of_head? hhead []).2
  rw [Role.ofTrimmed_keyed hname,
    if_pos (show Option.any Text.isSpaceOrTab (' ' :: value).head? = true from rfl), hdrop,
    KeyValue.singleLine?_eq_some hnl]
  rfl

namespace Row

variable {r : Row}

theorem isClean_pair {k : Nat} {name value : Text} (hname : name.isKeyName = true)
    (hvalue : value.isValue = true) : (pair k name value).isClean = true :=
  (Bool.and_eq_true _ _).mpr ⟨hname, hvalue⟩

/-- What is written starts and ends with characters that are no blanks. -/
theorem written_ends (h : r.isClean = true) :
    r.written.head?.any (!Text.isBlank ·) = true ∧
      r.written.getLast?.any (!Text.isBlank ·) = true := by
  have hname (name : Text) (hname : name.isKeyName = true) :
      ∃ c rest, name = c :: rest ∧ Text.isBlank c = false := by
    obtain ⟨hne, hall⟩ := Text.isBare_iff.mp (Text.isKeyName_iff.mp hname).1
    obtain ⟨c, rest, rfl⟩ := List.exists_cons_of_ne_nil hne
    exact ⟨c, rest, rfl, Text.isBlank_eq_false_of_isTokenChar
      (Text.isTokenChar_of_isBareChar (hall c (by simp)))⟩
  have hlast (t : Text) (ht : t.isValue = true) (start : Text) :
      (start ++ t).getLast?.any (!Text.isBlank ·) = true := by
    have hend := (Text.isValue_iff.mp ht).2.2
    cases hl : t.getLast? with
    | none => simp [hl] at hend
    | some c => simpa [List.getLast?_append, hl] using hend
  cases r with
  | key indent name =>
    obtain ⟨c, rest, rfl, hc⟩ := hname name h
    refine ⟨by simp [written, hc], ?_⟩
    rw [written, List.getLast?_append, List.getLast?_singleton, Option.some_or]
    decide
  | pair indent name value =>
    simp only [isClean, Bool.and_eq_true] at h
    obtain ⟨c, rest, rfl, hc⟩ := hname name h.1
    have hend := hlast value h.2 (c :: rest ++ [':', ' '])
    rw [List.append_assoc] at hend
    exact ⟨by simp [written, hc], hend⟩
  | item indent text =>
    have hend := hlast text (Text.isValue_of_isToken h) ['-', ' ']
    exact ⟨rfl, hend⟩

/-- No row holds a line feed. -/
theorem newline_not_mem_text (h : r.isClean = true) : '\n' ∉ r.text := by
  have hbare (t : Text) (ht : t.isBare = true) : '\n' ∉ t :=
    Text.newline_not_mem_isValue (Text.isValue_of_isToken (Text.isToken_of_isBare ht))
  have hwritten : '\n' ∉ r.written := by
    cases r with
    | key indent name => simp [written, hbare name (Text.isKeyName_iff.mp h).1]
    | pair indent name value =>
      simp only [isClean, Bool.and_eq_true] at h
      simp [written, hbare name (Text.isKeyName_iff.mp h.1).1, Text.newline_not_mem_isValue h.2]
    | item indent text =>
      simp [written, Text.newline_not_mem_isValue (Text.isValue_of_isToken h)]
  simp [text, hwritten]

section
variable (n : Int) (h : r.isClean = true)
include h

theorem exists_written_cons : ∃ c rest, r.written = c :: rest ∧ Text.isBlank c = false := by
  have hhead := (written_ends h).1
  cases hw : r.written with
  | nil => simp [hw] at hhead
  | cons c rest => exact ⟨c, rest, rfl, by simpa [hw] using hhead⟩

theorem line_eq : r.line n = ⟨n, r.text, false⟩ := by
  obtain ⟨-, hlast⟩ := written_ends h
  obtain ⟨c, rest, hw, -⟩ := exists_written_cons h
  rw [line, Line.ofText, Text.dropEndWhile_eq_self]
  intro d hd
  have hd' : r.written.getLast? = some d := by
    rw [text, List.getLast?_append, hw] at hd
    rw [hw]
    simpa using hd
  have hblank : Text.isBlank d = false := by simpa [hd'] using hlast
  rw [beq_eq_false_iff_ne]
  rintro rfl
  exact absurd hblank (by decide)

theorem line_trimmed : (r.line n).trimmed = r.written := by
  obtain ⟨hhead, hlast⟩ := written_ends h
  have hmargin : Text.trimStart r.text = Text.trimStart r.written := by
    rw [text, Text.trimStart, List.dropWhile_append_of_pos, Text.trimStart]
    intro c hc
    rw [(List.mem_replicate.mp hc).2]
    decide
  rw [line_eq n h, Line.trimmed, Text.trim, hmargin, ← Text.trim, Text.trim_eq_self hhead hlast]

/-- The margin is the run of spaces that the row was given. -/
theorem takeWhile_text {p : Char → Bool} (hspace : p ' ' = true)
    (hp : ∀ c, p c = true → Text.isBlank c = true) :
    r.text.takeWhile p = List.replicate r.indent ' ' := by
  obtain ⟨c, rest, hw, hc⟩ := exists_written_cons h
  have hstop : p c = false := by
    cases hpc : p c with
    | false => rfl
    | true => rw [hp c hpc] at hc; cases hc
  rw [text, List.takeWhile_append_of_pos fun d hd => (List.mem_replicate.mp hd).2 ▸ hspace, hw,
    List.takeWhile_cons_of_neg (by simp [hstop]), List.append_nil]

theorem line_indent : (r.line n).indent = r.indent := by
  rw [line_eq n h, Line.indent, takeWhile_text h (by decide) fun c hc => ?_, List.length_replicate]
  rw [show c = ' ' by simpa using hc]
  decide

theorem line_hasTabMargin : (r.line n).hasTabMargin = false := by
  rw [line_eq n h, Line.hasTabMargin, Line.margin, takeWhile_text h (by decide) fun c hc => ?_]
  · simp [List.mem_replicate]
  · exact Text.isBlank_of_isSpaceOrTab hc

theorem line_role : (r.line n).role = r.role := by
  rw [Line.role, line_trimmed n h]
  cases r with
  | key indent name =>
    rw [written, Role.ofTrimmed_keyed h]
    rfl
  | pair indent name value =>
    simp only [isClean, Bool.and_eq_true] at h
    obtain ⟨hname, hvalue⟩ := h
    have hhead : value.head?.any Text.isSpaceOrTab = false := by
      obtain ⟨-, hhead, -⟩ := Text.isValue_iff.mp hvalue
      cases value with
      | nil => rfl
      | cons c rest => exact Text.isSpaceOrTab_eq_false_of_isBlank (by simpa using hhead)
    rw [written, Role.ofTrimmed_pair hname hhead (Text.newline_not_mem_isValue hvalue),
      Text.withoutComment_isValue hvalue, Text.trim_isValue hvalue, role]
  | item indent text => rfl

@[simp]
theorem line_key? : (r.line n).key? = r.key? := by
  rw [Line.key?, line_role n h]
  cases r <;> rfl

theorem line_value : (r.line n).value = r.value := by
  rw [Line.value, Line.value?, line_role n h]
  cases r <;> rfl

theorem line_isListItem : (r.line n).isListItem = r.isItem := by
  rw [Line.isListItem, line_role n h]
  cases r <;> rfl

theorem line_isContent : (r.line n).isContent = true := by
  rw [Line.isContent, Line.isBlank, Line.isComment, line_role n h]
  cases r <;> rfl

theorem line_inScalar : (r.line n).inScalar = false := by rw [line_eq n h]

end

theorem item_line {indent : Nat} {text : Text} (h : text.isToken = true) (n : Int) :
    ((item indent text).line n).item = text := by
  have hvalue := Text.isValue_of_isToken h
  have hplain : ∀ c ∈ ' ' :: text, Text.isPlain c = true := by
    intro c hc
    rcases List.mem_cons.mp hc with rfl | hc
    · decide
    · exact Text.isPlain_of_isValueChar ((Text.isValue_iff.mp hvalue).1 c hc)
  have hclean : (item indent text).isClean = true := h
  rw [Line.item, line_isListItem n hclean, line_trimmed n hclean, isItem, if_pos rfl, written,
    List.drop_succ_cons, List.drop_zero, Text.withoutComment_plain hplain, Text.trim_trimEnd,
    Text.trim, Text.trimStart, List.dropWhile_cons_of_pos (by decide), ← Text.trimStart,
    ← Text.trim, Text.trim_isValue hvalue]

/-- No row opens a scalar. -/
theorem opensScalar_line (h : r.isClean = true) (n : Int) : (r.line n).opensScalar = false := by
  rw [Line.opensScalar, line_role n h]
  cases r with
  | key indent name => rfl
  | pair indent name value =>
    simp only [isClean, Bool.and_eq_true] at h
    exact Text.isScalarHeader_isValue h.2
  | item indent text =>
    have hnone : (KeyValue.read? text).bind (fun entry => entry.value.nonempty?) = none := by
      cases hread : KeyValue.read? text with
      | none => rfl
      | some entry =>
        rw [Option.bind_some, KeyValue.value, Text.value?_of_isToken h hread]
        rfl
    simp only [role, item_line h, hnone]
    exact Text.isScalarHeader_isValue (Text.isValue_of_isToken h)

end Row

end ComposeLint
