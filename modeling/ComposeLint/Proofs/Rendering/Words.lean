import ComposeLint.Proofs.Rendering.Layout
import ComposeLint.Proofs.Text.Cuts

/-! # Canonical texts

The names and values of a canonical stack are clean, and the short forms that are made of them can
be taken apart again. -/

namespace ComposeLint

namespace Text

/-! ## Names -/

theorem isKeyName_of_all {p q : Char → Bool} {t : Text} (hhead : t.head?.any q = true)
    (hdash : q '-' = false) (hall : t.all p = true) (hp : ∀ c, p c = true → isBareChar c = true) :
    t.isKeyName = true := by
  refine isKeyName_iff.mpr
    ⟨isBare_iff.mpr ⟨?_, fun c hc => hp c (List.all_eq_true.mp hall c hc)⟩, ?_⟩
  · rintro rfl
    cases hhead
  · intro hd
    rw [hd, Option.any_some, hdash] at hhead
    cases hhead

theorem isKeyName_of_isNameOf {kind : EntryKind} {t : Text} (h : t.isNameOf kind = true) :
    t.isKeyName = true := by
  simp only [isNameOf, Bool.and_eq_true] at h
  refine isKeyName_of_all h.1 (by decide) h.2 fun c hc => ?_
  simp only [EntryKind.isNameChar, Bool.or_eq_true, Bool.and_eq_true, beq_iff_eq] at hc
  rcases hc with (((hc | hc) | rfl) | rfl) | ⟨-, rfl⟩
  · simp [isBareChar, hc]
  · simp [isBareChar, hc]
  all_goals decide

theorem isKeyName_of_isVariableName {t : Text} (h : t.isVariableName = true) :
    t.isKeyName = true := by
  simp only [isVariableName, Bool.and_eq_true] at h
  refine isKeyName_of_all h.1 (by decide) h.2 fun c hc => ?_
  simp only [Bool.or_eq_true, beq_iff_eq] at hc
  rcases hc with (hc | hc) | rfl
  · simp [isBareChar, hc]
  · simp [isBareChar, hc]
  · decide

theorem isKeyName_of_isSettingName {t : Text} (h : t.isSettingName = true) :
    t.isKeyName = true := by
  simp only [isSettingName, Bool.and_eq_true] at h
  refine isKeyName_of_all h.1 (by decide) h.2 fun c hc => ?_
  simp only [Bool.or_eq_true, beq_iff_eq] at hc
  rcases hc with ((hc | hc) | rfl) | rfl
  · simp [isBareChar, hc]
  · simp [isBareChar, hc]
  all_goals decide

theorem isToken_of_isKeyName {t : Text} (h : t.isKeyName = true) : t.isToken = true :=
  isToken_of_isBare (isKeyName_iff.mp h).1

/-! ## Pairs of words -/

variable {a b t : Text} {c : Char}

theorem isToken_pair (ha : a.isBare = true) (hb : b.isBare = true) (hc : isTokenChar c = true) :
    Text.isToken (a ++ c :: b) = true := by
  refine isToken_iff.mpr ⟨by simp, fun d hd => ?_⟩
  rw [List.mem_append, List.mem_cons] at hd
  rcases hd with hd | rfl | hd
  · exact isTokenChar_of_isBareChar ((isBare_iff.mp ha).2 d hd)
  · exact hc
  · exact isTokenChar_of_isBareChar ((isBare_iff.mp hb).2 d hd)

theorem not_mem_of_isBare (h : t.isBare = true) (hc : isBareChar c = false) : c ∉ t := fun hmem =>
  ne_of_class ((isBare_iff.mp h).2 c hmem) hc rfl

theorem isToken_of_isImage (h : t.isImage = true) : t.isToken = true := by
  unfold isImage at h
  split at h
  · next name tag hcut =>
    simp only [Bool.and_eq_true] at h
    rw [eq_of_cutAt? hcut]
    exact isToken_pair h.1 h.2 (by decide)
  · exact isToken_of_isBare h

/-- Nothing in a value is a quote. -/
theorem withoutQuotes_isValue (h : t.isValue = true) : t.withoutQuotes = t := by
  have hfilter : t.filter (!isQuote ·) = t := List.filter_eq_self.mpr fun c hc => by
    have hplain := isPlain_of_isValueChar ((isValue_iff.mp h).1 c hc)
    simp only [isPlain, Bool.and_eq_true] at hplain
    exact hplain.1
  rw [withoutQuotes, hfilter, trim_isValue h]

theorem isVacant_isToken (h : t.isToken = true) : t.isVacant = false := by
  obtain ⟨hne, hall⟩ := isToken_iff.mp h
  obtain ⟨d, rest, rfl⟩ := List.exists_cons_of_ne_nil hne
  simp [isVacant, isBlank_eq_false_of_isTokenChar (hall d (by simp))]

theorem trim_isBare (h : t.isBare = true) : t.trim = t :=
  trim_isValue (isValue_of_isToken (isToken_of_isBare h))

theorem nonempty?_isToken (h : t.isToken = true) : t.nonempty? = some t :=
  if_neg (by simp [(isToken_iff.mp h).1])

theorem unquote_isToken (h : t.isToken = true) : t.unquote = t :=
  unquote_isValue (isValue_of_isToken h)

end Text

/-! ## Short forms -/

theorem Mapping.isToken_entry {m : Mapping} (h : m.isCanonical = true) :
    m.entry.isToken = true := by
  simp only [isCanonical, Bool.and_eq_true] at h
  exact Text.isToken_pair h.1 h.2 (by decide)

theorem Mapping.read?_entry {m : Mapping} (h : m.isCanonical = true) :
    Mapping.read? m.entry = some m := by
  simp only [isCanonical, Bool.and_eq_true] at h
  obtain ⟨hhost, hcontainer⟩ := h
  have hsplit : m.entry.splitOn ':' = [m.host, m.container] := by
    have hnone : ∀ t ∈ [m.host, m.container], ':' ∉ t := by
      simp [Text.not_mem_of_isBare hhost (c := ':') (by decide),
        Text.not_mem_of_isBare hcontainer (c := ':') (by decide)]
    have := List.splitOn_intercalate ':' hnone (by simp)
    rwa [List.intercalate_cons_cons, List.intercalate_singleton, List.append_assoc] at this
  unfold Mapping.read?
  rw [hsplit]
  simp only [Text.trim_isBare hhost, Text.trim_isBare hcontainer]
  rw [if_neg (by simp [(Text.isBare_iff.mp hhost).1, (Text.isBare_iff.mp hcontainer).1])]

theorem Variable.isKeyName {v : Variable} (h : v.isCanonical = true) : v.key.isKeyName = true := by
  simp only [isCanonical, Bool.and_eq_true] at h
  exact Text.isKeyName_of_isVariableName h.1

theorem Variable.isToken_entry {v : Variable} (h : v.isCanonical = true) :
    v.entry.isToken = true := by
  have hkey := isKeyName h
  simp only [isCanonical, Bool.and_eq_true] at h
  unfold entry
  cases hv : v.value? with
  | none => exact Text.isToken_of_isKeyName hkey
  | some value =>
    rw [hv] at h
    exact Text.isToken_pair (Text.isKeyName_iff.mp hkey).1 h.2 (by decide)

theorem Block.variableOfItem?_entry {v : Variable} (h : v.isCanonical = true) :
    variableOfItem? v.entry = some v := by
  have hbare := (Text.isKeyName_iff.mp (Variable.isKeyName h)).1
  have hequals := Text.not_mem_of_isBare hbare (c := '=') (by decide)
  have hsplit : v.entry.splitAssignment = (v.key, v.value?) := by
    unfold Variable.entry
    cases v.value? with
    | none => rw [Text.splitAssignment, Text.cutAt?_eq_none hequals]
    | some value => rw [Text.splitAssignment, Text.cutAt?_append hequals]
  rw [variableOfItem?, Text.unquote_isToken (Variable.isToken_entry h), hsplit]
  simp [Text.isVacant_isToken (Text.isToken_of_isBare hbare), Text.trim_isBare hbare]

theorem Setting.isToken_entry {s : Setting} (h : s.isCanonical = true) :
    s.entry.isToken = true := by
  simp only [isCanonical, Bool.and_eq_true] at h
  exact Text.isToken_pair (Text.isKeyName_iff.mp (Text.isKeyName_of_isSettingName h.1)).1 h.2
    (by decide)

theorem Block.settingOfItem?_entry {s : Setting} (h : s.isCanonical = true) :
    settingOfItem? s.entry = some s := by
  have htoken := Setting.isToken_entry h
  simp only [Setting.isCanonical, Bool.and_eq_true] at h
  obtain ⟨hkey, hvalue⟩ := h
  have hbare := (Text.isKeyName_iff.mp (Text.isKeyName_of_isSettingName hkey)).1
  have hsplit : s.entry.splitAssignment = (s.key, some s.value) := by
    rw [Setting.entry, Text.splitAssignment,
      Text.cutAt?_append (Text.not_mem_of_isBare hbare (by decide))]
  rw [settingOfItem?, Text.unquote_isToken htoken, hsplit]
  simp [Text.isVacant_isToken (Text.isToken_of_isBare hbare),
    Text.isVacant_isToken (Text.isToken_of_isBare hvalue), Text.trim_isBare hbare,
    Text.trim_isBare hvalue]

end ComposeLint
