import ComposeLint.Line.Basic
import Mathlib.Data.List.DropRight

/-! # The ends of texts

Cutting characters off the end of a text leaves its start alone. Every fact below comes from one
equation: a text is its trimmed start followed by the run that was cut off. -/

namespace ComposeLint.Text

theorem dropEndWhile_eq_rdropWhile (p : Char → Bool) (t : Text) :
    t.dropEndWhile p = t.rdropWhile p := rfl

/-- What is cut off at the end satisfies the test throughout. -/
theorem exists_dropEndWhile_append (p : Char → Bool) (t : Text) :
    ∃ tail, t = t.dropEndWhile p ++ tail ∧ ∀ c ∈ tail, p c = true :=
  ⟨t.rtakeWhile p, List.rdropWhile_append_rtakeWhile.symm, fun _ => List.mem_rtakeWhile_imp⟩

theorem mem_of_mem_dropEndWhile {p : Char → Bool} {c : Char} {t : Text}
    (h : c ∈ t.dropEndWhile p) : c ∈ t := by
  obtain ⟨tail, ht, -⟩ := exists_dropEndWhile_append p t
  rw [ht]
  exact List.mem_append_left tail h

theorem exists_trimEnd_append (t : Text) :
    ∃ tail, t = t.trimEnd ++ tail ∧ ∀ c ∈ tail, isBlank c = true :=
  exists_dropEndWhile_append isBlank t

theorem dropEndWhile_append {p : Char → Bool} {tail : Text} (h : ∀ c ∈ tail, p c = true)
    (t : Text) : dropEndWhile p (t ++ tail) = dropEndWhile p t := by
  induction tail using List.reverseRecOn with
  | nil => rw [List.append_nil]
  | append_singleton rest c ih =>
    rw [← List.append_assoc, dropEndWhile_eq_rdropWhile, List.rdropWhile_concat_pos _ _ _
      (h c (by simp)), ← dropEndWhile_eq_rdropWhile]
    exact ih fun d hd => h d (by simp [hd])

/-- A last character that stays protects the whole text. -/
theorem dropEndWhile_eq_self {p : Char → Bool} {t : Text}
    (h : ∀ c, t.getLast? = some c → p c = false) : dropEndWhile p t = t := by
  rw [dropEndWhile_eq_rdropWhile, List.rdropWhile_eq_self_iff]
  intro hne
  simp [h _ (List.getLast?_eq_some_getLast hne)]

theorem dropEndWhile_dropEndWhile (p : Char → Bool) (t : Text) :
    (t.dropEndWhile p).dropEndWhile p = t.dropEndWhile p := List.rdropWhile_idempotent p t

@[simp]
theorem trimEnd_trimEnd (t : Text) : t.trimEnd.trimEnd = t.trimEnd :=
  dropEndWhile_dropEndWhile isBlank t

theorem isBlank_carriageReturn : isBlank '\r' = true := by decide

/-- Carriage returns at the end are blanks like all others. -/
@[simp]
theorem trimEnd_dropEndWhile_carriageReturn (t : Text) :
    (t.dropEndWhile (· == '\r')).trimEnd = t.trimEnd := by
  obtain ⟨tail, ht, hr⟩ := exists_dropEndWhile_append (· == '\r') t
  conv_rhs => rw [ht]
  refine (dropEndWhile_append (fun c hc => ?_) _).symm
  rw [show c = '\r' by simpa using hr c hc]
  exact isBlank_carriageReturn

/-- A run ends before a text that does not go on with it. -/
theorem takeWhile_append_of_head? {p : Char → Bool} {w : Text} (h : w.head?.any p = false)
    (a : Text) : (a ++ w).takeWhile p = a.takeWhile p ∧ (a ++ w).dropWhile p = a.dropWhile p ++ w := by
  have hw : w.takeWhile p = [] ∧ w.dropWhile p = w := by
    cases w with
    | nil => exact ⟨rfl, rfl⟩
    | cons c w =>
      have hc : ¬ p c = true := by simpa using h
      exact ⟨List.takeWhile_cons_of_neg hc, List.dropWhile_cons_of_neg hc⟩
  induction a with
  | nil => exact hw
  | cons c rest ih =>
    rw [List.cons_append, List.takeWhile_cons, List.takeWhile_cons, List.dropWhile_cons,
      List.dropWhile_cons, ih.1, ih.2]
    split <;> simp

/-- A run that is over before the text is does not reach into what follows. -/
theorem takeWhile_append_of_exists {p : Char → Bool} {t : Text} (h : ∃ c ∈ t, p c = false)
    (tail : Text) : (t ++ tail).takeWhile p = t.takeWhile p ∧
      (t ++ tail).dropWhile p = t.dropWhile p ++ tail := by
  induction t with
  | nil =>
    obtain ⟨c, hc, -⟩ := h
    cases hc
  | cons d rest ih =>
    rw [List.cons_append, List.takeWhile_cons, List.takeWhile_cons, List.dropWhile_cons,
      List.dropWhile_cons]
    split
    · next hd =>
      obtain ⟨c, hc, hfalse⟩ := h
      rcases List.mem_cons.mp hc with rfl | hc
      · rw [hd] at hfalse
        cases hfalse
      · obtain ⟨htake, hdrop⟩ := ih ⟨c, hc, hfalse⟩
        exact ⟨congrArg _ htake, hdrop⟩
    · exact ⟨rfl, rfl⟩

theorem trimStart_append {t tail : Text} (h : ∃ c ∈ t, isBlank c = false) :
    trimStart (t ++ tail) = trimStart t ++ tail := (takeWhile_append_of_exists h tail).2

/-- A text of blanks only trims to nothing, from either side. -/
theorem trim_eq_nil_iff {t : Text} : t.trim = [] ↔ ∀ c ∈ t, isBlank c = true := by
  unfold trim trimEnd trimStart
  rw [dropEndWhile_eq_rdropWhile, List.rdropWhile_eq_nil_iff]
  constructor
  · intro h c hc
    rw [← List.takeWhile_append_dropWhile (p := isBlank) (l := t), List.mem_append] at hc
    rcases hc with hc | hc
    · exact List.mem_takeWhile_imp hc
    · exact h c hc
  · intro h c hc
    exact h c (List.dropWhile_sublist isBlank |>.mem hc)

theorem trimEnd_eq_nil_iff {t : Text} : t.trimEnd = [] ↔ ∀ c ∈ t, isBlank c = true :=
  List.rdropWhile_eq_nil_iff

/-- A text with something to show keeps it when its end is trimmed. -/
theorem exists_mem_trimEnd {t : Text} (h : t.trim ≠ []) : ∃ c ∈ t.trimEnd, isBlank c = false := by
  have hne : ¬ ∀ c ∈ t, isBlank c = true := fun hall => h (trim_eq_nil_iff.mpr hall)
  obtain ⟨c, hc, hb⟩ : ∃ c ∈ t, isBlank c = false := by simpa using hne
  obtain ⟨tail, ht, hall⟩ := exists_trimEnd_append t
  rw [ht, List.mem_append] at hc
  rcases hc with hc | hc
  · exact ⟨c, hc, hb⟩
  · rw [hall c hc] at hb; cases hb

@[simp]
theorem trim_trimEnd (t : Text) : t.trimEnd.trim = t.trim := by
  by_cases h : t.trim = []
  · rw [h, trim_eq_nil_iff]
    rw [trim_eq_nil_iff] at h
    rw [trimEnd_eq_nil_iff.mpr h]
    simp
  · obtain ⟨tail, ht, hall⟩ := exists_trimEnd_append t
    conv_rhs => rw [ht]
    unfold trim
    rw [trimStart_append (exists_mem_trimEnd h)]
    exact (dropEndWhile_append hall _).symm

@[simp]
theorem trim_trimStart (t : Text) : t.trimStart.trim = t.trim := by
  rw [trim, trimStart, trimStart, List.dropWhile_idempotent, trim, trimStart]

theorem trim_blank_append {a : Text} (h : ∀ c ∈ a, isBlank c = true) (t : Text) :
    trim (a ++ t) = t.trim := by
  rw [trim, trimStart, List.dropWhile_append_of_pos h, trim, trimStart]

theorem trim_append_blank {b : Text} (h : ∀ c ∈ b, isBlank c = true) (t : Text) :
    trim (t ++ b) = t.trim := by
  rw [← trim_trimEnd, trimEnd, dropEndWhile_append h, ← trimEnd, trim_trimEnd]

/-- A text is its trimmed text with blanks around it. -/
theorem exists_around_trim (t : Text) : ∃ before after, t = before ++ (t.trim ++ after) ∧
    (∀ c ∈ before, isBlank c = true) ∧ ∀ c ∈ after, isBlank c = true := by
  obtain ⟨after, ht, hafter⟩ := exists_trimEnd_append t.trimStart
  refine ⟨t.takeWhile isBlank, after, ?_, fun c hc => List.mem_takeWhile_imp hc, hafter⟩
  conv_lhs => rw [← List.takeWhile_append_dropWhile (p := isBlank) (l := t)]
  exact congrArg _ ht

/-- What stands around the trimmed text is dropped with or without a filter. -/
theorem trim_filter_trim (p : Char → Bool) (t : Text) :
    trim (t.trim.filter p) = trim (t.filter p) := by
  obtain ⟨before, after, ht, hbefore, hafter⟩ := exists_around_trim t
  have hstart : ∀ c ∈ before.filter p, isBlank c = true := fun c hc =>
    hbefore c (List.mem_filter.mp hc).1
  have hend : ∀ c ∈ after.filter p, isBlank c = true := fun c hc => hafter c (List.mem_filter.mp hc).1
  conv_rhs => rw [ht, List.filter_append, List.filter_append, trim_blank_append hstart,
    trim_append_blank hend]

/-- A text without blanks that is all there is to a text has only blanks around it. -/
theorem isBlank_around {before word after : Text} (hword : ∀ c ∈ word, isBlank c = false)
    (h : trim (before ++ word ++ after) = word) :
    (∀ c ∈ before, isBlank c = true) ∧ ∀ c ∈ after, isBlank c = true := by
  obtain ⟨start, tail, ht, hstart, htail⟩ := exists_around_trim (before ++ word ++ after)
  rw [h] at ht
  have hfilter := congrArg (List.filter (!isBlank ·)) ht
  have hnone {part : Text} (hpart : ∀ c ∈ part, isBlank c = true) :
      part.filter (!isBlank ·) = [] := List.filter_eq_nil_iff.mpr fun c hc => by simp [hpart c hc]
  have hall : word.filter (!isBlank ·) = word :=
    List.filter_eq_self.mpr fun c hc => by simp [hword c hc]
  rw [List.filter_append, List.filter_append, List.filter_append, List.filter_append, hnone hstart,
    hnone htail, hall, List.nil_append, List.append_nil] at hfilter
  have hlength := congrArg List.length hfilter
  rw [List.length_append, List.length_append] at hlength
  constructor
  · have hbefore : (before.filter (!isBlank ·)).length = 0 := by omega
    simpa using List.length_eq_zero_iff.mp hbefore
  · have hafter : (after.filter (!isBlank ·)).length = 0 := by omega
    simpa using List.length_eq_zero_iff.mp hafter

/-- A run at the start of a text ends before the blanks at its end begin. -/
theorem takeWhile_trimEnd {p : Char → Bool} (hp : ∀ c, p c = true → isBlank c = true) {t : Text}
    (h : t.trim ≠ []) : t.trimEnd.takeWhile p = t.takeWhile p := by
  obtain ⟨tail, ht, -⟩ := exists_trimEnd_append t
  obtain ⟨c, hc, hb⟩ := exists_mem_trimEnd h
  have hstop : p c = false := by
    rw [Bool.eq_false_iff]
    intro hpc
    rw [hp c hpc] at hb
    cases hb
  conv_rhs => rw [ht]
  exact (takeWhile_append_of_exists ⟨c, hc, hstop⟩ tail).1.symm

theorem mem_trimEnd {c : Char} (hb : isBlank c = false) {t : Text} (h : c ∈ t) : c ∈ t.trimEnd := by
  obtain ⟨tail, ht, hall⟩ := exists_trimEnd_append t
  rw [ht, List.mem_append] at h
  rcases h with h | h
  · exact h
  · rw [hall c h] at hb; cases hb

theorem mem_trim {c : Char} (hb : isBlank c = false) {t : Text} (h : c ∈ t) : c ∈ t.trim := by
  rw [← List.takeWhile_append_dropWhile (p := isBlank) (l := t), List.mem_append] at h
  rcases h with h | h
  · rw [List.mem_takeWhile_imp h] at hb; cases hb
  · exact mem_trimEnd hb h

/-- The first place of a character that is no blank. -/
theorem idxOf_trimEnd {c : Char} (hb : isBlank c = false) {t : Text} (h : c ∈ t) :
    t.trimEnd.idxOf c = t.idxOf c := by
  obtain ⟨tail, ht, -⟩ := exists_trimEnd_append t
  conv_rhs => rw [ht]
  rw [List.idxOf_append, if_pos (mem_trimEnd hb h)]

/-- Nothing before a character that stays is cut off. -/
theorem dropEndWhile_append_cons {p : Char → Bool} {c : Char} (hc : p c = false)
    (start rest : Text) :
    dropEndWhile p (start ++ c :: rest) = start ++ c :: dropEndWhile p rest := by
  unfold dropEndWhile
  rw [List.reverse_append, List.reverse_cons, List.append_assoc, List.dropWhile_append]
  split
  · next hnil =>
    rw [List.isEmpty_iff] at hnil
    simp [hnil, hc]
  · simp

/-- A start whose last character is no blank is a start of the trimmed text too. -/
theorem prefix_trimEnd_iff {c : Char} (hb : isBlank c = false) (start t : Text) :
    start ++ [c] <+: t.trimEnd ↔ start ++ [c] <+: t := by
  constructor
  · intro h
    obtain ⟨tail, ht, -⟩ := exists_trimEnd_append t
    exact h.trans ⟨tail, ht.symm⟩
  · rintro ⟨rest, rfl⟩
    rw [List.append_assoc, List.singleton_append, trimEnd, dropEndWhile_append_cons hb]
    exact ⟨dropEndWhile isBlank rest, by simp⟩

theorem startsWith_trimEnd {c : Char} (hb : isBlank c = false) (start t : Text) :
    t.trimEnd.startsWith (start ++ [c]) = t.startsWith (start ++ [c]) := by
  unfold startsWith
  rw [Bool.eq_iff_iff, List.isPrefixOf_iff_prefix, List.isPrefixOf_iff_prefix]
  exact prefix_trimEnd_iff hb start t

/-- What is cut off the end of the rest is cut off the end of the whole. -/
theorem trimEnd_cons_trimEnd (c : Char) (t : Text) : trimEnd (c :: t.trimEnd) = trimEnd (c :: t) := by
  obtain ⟨tail, ht, htail⟩ := exists_trimEnd_append t
  conv_rhs => rw [ht, ← List.cons_append]
  exact (dropEndWhile_append htail _).symm

theorem trimEnd_eq_self_of_append {a b : Text} (h : (a ++ b).trimEnd = a ++ b) :
    b.trimEnd = b := by
  refine List.rdropWhile_eq_self_iff.mpr fun hne => ?_
  have hlast := List.rdropWhile_eq_self_iff.mp h (by simp [hne])
  rwa [List.getLast_append_of_ne_nil _ hne] at hlast

theorem exists_mem_of_trimEnd_eq_self {t : Text} (hne : t ≠ []) (h : t.trimEnd = t) :
    ∃ c ∈ t, isBlank c = false :=
  ⟨t.getLast hne, List.getLast_mem hne, by simpa using List.rdropWhile_eq_self_iff.mp h hne⟩

/-- The ends of a text are trimmed in either order. -/
theorem trim_eq_trimStart_trimEnd (t : Text) : t.trim = t.trimEnd.trimStart := by
  have hend : t.trimEnd.trimStart.trimEnd = t.trimEnd.trimStart := by
    refine trimEnd_eq_self_of_append (a := t.trimEnd.takeWhile isBlank) ?_
    rw [trimStart, List.takeWhile_append_dropWhile, trimEnd_trimEnd]
  rw [← trim_trimEnd, trim, hend]

/-- A first character after blanks is found in any start of a text that is more than blanks. -/
theorem prefix_append_iff {t : Text} {c : Char} (start : Text)
    (hstart : ∀ d ∈ start, isBlank d = true) (ht : ∃ d ∈ t, isBlank d = false) (w : Text) :
    start ++ [c] <+: t ++ w ↔ start ++ [c] <+: t := by
  refine ⟨fun h => ?_, fun h => h.trans (List.prefix_append t w)⟩
  rcases List.prefix_or_prefix_of_prefix h (List.prefix_append t w) with h | h
  · exact h
  · rcases List.prefix_concat_iff.mp h with rfl | h
    · exact List.prefix_refl _
    · obtain ⟨d, hd, hblank⟩ := ht
      rw [hstart d (h.subset hd)] at hblank
      cases hblank

end ComposeLint.Text
