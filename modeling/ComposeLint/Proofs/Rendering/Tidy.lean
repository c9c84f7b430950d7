import ComposeLint.Check.LineForm
import ComposeLint.Proofs.Line.Remark
import ComposeLint.Proofs.Rendering.Row

/-! # Tidy rows

What the check of single lines asks of a row: an even margin, and no two of the keys that only the
top level has. A text has at most one such key for each of its colons, so most rows have no room for
two, whatever their words are. -/

namespace ComposeLint

namespace Check

/-- No key goes on in the middle of a word. -/
theorem keyMayFollow_of_mem_topLevelKeys {key : Text} (hkey : key ∈ topLevelKeys) :
    ∀ c ∈ key, keyMayFollow (some c) = false := by
  have hall : (topLevelKeys.all fun key => key.all fun c => !keyMayFollow (some c)) = true := by
    decide
  intro c hc
  simpa using List.all_eq_true.mp (List.all_eq_true.mp hall key hkey) c hc

theorem topLevelKeysIn_colon (previous : Option Char) (t : Text) :
    topLevelKeysIn previous (':' :: t) = topLevelKeysIn (some ':') t := by
  have hnone : (topLevelKeys.find? fun key => Text.startsWith (':' :: t) (key ++ [':'])) = none :=
    rfl
  rw [topLevelKeysIn, hnone]

/-- Within a word there is nothing to find up to its colon. -/
theorem topLevelKeysIn_word {word : Text} (hword : ∀ c ∈ word, keyMayFollow (some c) = false)
    {previous : Option Char} (hprevious : keyMayFollow previous = false) (t : Text) :
    topLevelKeysIn previous (word ++ ':' :: t) = topLevelKeysIn (some ':') t := by
  induction word generalizing previous with
  | nil => exact topLevelKeysIn_colon previous t
  | cons c rest ih =>
    have hlater := ih (fun d hd => hword d (by simp [hd])) (hword c (by simp))
    rw [List.cons_append, topLevelKeysIn, hprevious, hlater]
    split <;> rfl

/-- A text starts with a key and its colon, or the keys in it are those behind its first
character. -/
theorem topLevelKeysIn_cons (previous : Option Char) (c : Char) (rest : Text) :
    topLevelKeysIn previous (c :: rest) = topLevelKeysIn (some c) rest ∨
      ∃ key ∈ topLevelKeys, ∃ t, c :: rest = key ++ ':' :: t ∧
        topLevelKeysIn previous (c :: rest) = key :: topLevelKeysIn (some ':') t := by
  rw [topLevelKeysIn]
  cases hhere : topLevelKeys.find? fun key => Text.startsWith (c :: rest) (key ++ [':']) with
  | none => exact .inl rfl
  | some key =>
    cases hprevious : keyMayFollow previous with
    | false => exact .inl rfl
    | true =>
      have hmem := List.mem_of_find?_eq_some hhere
      have hstart : Text.startsWith (c :: rest) (key ++ [':']) = true :=
        List.find?_some (p := fun key => Text.startsWith (c :: rest) (key ++ [':'])) hhere
      obtain ⟨t, ht⟩ := List.isPrefixOf_iff_prefix.mp hstart
      rw [List.append_assoc, List.singleton_append] at ht
      have hword := keyMayFollow_of_mem_topLevelKeys hmem
      refine .inr ⟨key, hmem, t, ht.symm, ?_⟩
      cases key with
      | nil => exact absurd hmem (by decide)
      | cons d word =>
        obtain ⟨rfl, hrest⟩ := List.cons.inj ht
        have hlater : topLevelKeysIn (some d) rest = topLevelKeysIn (some ':') t :=
          hrest ▸ topLevelKeysIn_word (fun e he => hword e (List.mem_cons_of_mem _ he))
            (hword d List.mem_cons_self) t
        dsimp only
        rw [if_pos rfl, hlater]

/-- **At most one key for each colon.** -/
theorem length_topLevelKeysIn_le (t : Text) (previous : Option Char) :
    (topLevelKeysIn previous t).length ≤ t.count ':' := by
  -- A key is passed over with its colon, so the induction is on the length of what is left.
  induction hn : t.length using Nat.strongRecOn generalizing t previous with
  | ind n ih =>
    cases t with
    | nil => exact Nat.le_refl 0
    | cons c rest =>
      rcases topLevelKeysIn_cons previous c rest with hlater | ⟨key, -, t, ht, hfound⟩
      · rw [hlater]
        exact (ih _ (by simp [← hn]) rest (some c) rfl).trans
          (List.count_le_count_cons)
      · have hshorter : t.length < n := by
          rw [← hn, ht, List.length_append, List.length_cons]
          omega
        rw [hfound, ht, List.count_append, List.count_cons_self, List.length_cons]
        have := ih _ hshorter t (some ':') rfl
        omega

end Check

namespace Row

/-- What is expected of a row besides that it is clean. -/
structure IsTidy (r : Row) : Prop where
  even : r.indent % 2 = 0
  keys : (Check.topLevelKeysIn none r.written).length ≤ 1

/-- A single colon leaves no room for two keys. -/
theorem isTidy_of_count {r : Row} (heven : r.indent % 2 = 0) (hcolon : r.written.count ':' ≤ 1) :
    r.IsTidy :=
  ⟨heven, (Check.length_topLevelKeysIn_le _ none).trans hcolon⟩

variable {r : Row} (h : r.isClean = true)
include h

theorem isPlain_written : ∀ c ∈ r.written, Text.isPlain c = true := by
  have hname (name : Text) (hname : name.isKeyName = true) : ∀ c ∈ name, Text.isPlain c = true :=
    fun c hc => Text.isPlain_of_isValueChar (Text.isValueChar_of_isTokenChar
      ((Text.isToken_iff.mp (Text.isToken_of_isBare (Text.isKeyName_iff.mp hname).1)).2 c hc))
  have hvalue (value : Text) (hvalue : value.isValue = true) : ∀ c ∈ value, Text.isPlain c = true :=
    fun c hc => Text.isPlain_of_isValueChar ((Text.isValue_iff.mp hvalue).1 c hc)
  have hsigns (c : Char) (hc : c ∈ [':', ' ', '-']) : Text.isPlain c = true :=
    List.all_eq_true.mp (by decide : [':', ' ', '-'].all Text.isPlain = true) c hc
  intro c hc
  cases r with
  | key indent name =>
    rcases List.mem_append.mp hc with hc | hc
    · exact hname name h c hc
    · exact hsigns c (by simp_all)
  | pair indent name value =>
    simp only [isClean, Bool.and_eq_true] at h
    simp only [written, List.mem_append, List.mem_cons] at hc
    rcases hc with hc | rfl | rfl | hc
    · exact hname name h.1 c hc
    · exact hsigns _ (by simp)
    · exact hsigns _ (by simp)
    · exact hvalue value h.2 c hc
  | item indent text =>
    simp only [written, List.mem_cons] at hc
    rcases hc with rfl | rfl | hc
    · exact hsigns _ (by simp)
    · exact hsigns _ (by simp)
    · exact hvalue text (Text.isValue_of_isToken h) c hc

theorem withoutComment_written : r.written.withoutComment = r.written := by
  rw [Text.withoutComment_plain (isPlain_written h)]
  refine Text.dropEndWhile_eq_self fun c hc => ?_
  simpa [hc] using (written_ends h).2

/-- **A tidy row passes the check of single lines.** -/
theorem lineIssues_line (htidy : r.IsTidy) (n : Int) : Check.lineIssues (r.line n) = [] := by
  have hcontent := line_isContent n h
  rw [Line.isContent, Bool.and_eq_true, Bool.not_eq_true', Bool.not_eq_true'] at hcontent
  have hmargin : Check.marginFinding? (r.line n) = none := by
    simp [Check.marginFinding?, Line.hasMixedMargin, line_hasTabMargin n h, line_indent n h,
      htidy.even]
  have hquote : (r.line n).trimmed.openQuote? = none := by
    rw [line_trimmed n h]
    refine Text.openQuote?_eq_none fun c hc => ?_
    have hplain := isPlain_written h c hc
    simp only [Text.isPlain, Bool.and_eq_true, Bool.not_eq_true'] at hplain
    exact hplain.1
  have hsection : Check.sectionIssues (r.line n) = [] := by
    have hkeys := htidy.keys
    rw [Check.sectionIssues, line_trimmed n h, withoutComment_written h]
    exact if_neg (by omega)
  have hdash : r.isItem = true → Check.dashIssues (r.line n) = [] := by
    intro hitem
    cases r with
    | key indent name => cases hitem
    | pair indent name value => cases hitem
    | item indent text =>
      rw [Check.dashIssues, line_trimmed n h, withoutComment_written h]
      rfl
  rw [Check.lineIssues, if_neg (by simp [hcontent.1]), hmargin, Check.contentIssues,
    Check.quoteIssues, hquote, hsection, line_role n h]
  cases r with
  | key indent name => simp [role]
  | pair indent name value => simp [role]
  | item indent text => simp [role, hdash rfl]

end Row

end ComposeLint
