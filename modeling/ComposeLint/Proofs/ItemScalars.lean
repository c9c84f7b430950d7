import ComposeLint.Proofs.Rendering.Row
import ComposeLint.Proofs.ScalarOwner

/-! # Block scalars opened inside of list items

A list item may open a block scalar by the value of its first key. The scalar is measured by the
indent of the line, which is the column of the dash, and not by the column of the key. So it reaches
over further keys of the same entry, which stand below the first one
(`item_scalar_takes_next_key`), and ends only where a line is no deeper than the dash
(`item_scalar_ends_at_dash`). -/

namespace ComposeLint

/-! ## Scalar headers -/

/-- A sign of a scalar header. -/
def Line.isHeaderChar (c : Char) : Bool := "|>-+".toList.contains c || Text.isFigure c

theorem Line.isHeaderChar_of_mem {t : Text} (h : isScalarHeader t = true) {c : Char} (hc : c ∈ t) :
    isHeaderChar c = true := by
  cases t with
  | nil => cases hc
  | cons d rest =>
    simp only [isScalarHeader, Bool.and_eq_true, Bool.or_eq_true, beq_iff_eq, List.all_eq_true] at h
    obtain ⟨hsign, hrest⟩ := h
    rcases List.mem_cons.mp hc with rfl | hc
    · rcases hsign with rfl | rfl <;> decide
    · rcases hrest c hc with (rfl | rfl) | hfigure
      · decide
      · decide
      · rw [isHeaderChar, hfigure, Bool.or_true]

theorem Text.isBlank_eq_false_of_isFigure {c : Char} (h : isFigure c = true) : isBlank c = false := by
  rw [isFigure_iff] at h
  simp only [isBlank, Bool.or_eq_false_iff, Bool.and_eq_false_iff, decide_eq_false_iff_not,
    beq_eq_false_iff_ne]
  omega

theorem Line.isBlank_eq_false_of_isHeaderChar {c : Char} (h : isHeaderChar c = true) :
    Text.isBlank c = false := by
  have hsigns : "|>-+".toList.all (!Text.isBlank ·) = true := by decide
  rw [isHeaderChar, Bool.or_eq_true] at h
  rcases h with hsign | hfigure
  · simpa using List.all_eq_true.mp hsigns c (by simpa using hsign)
  · exact Text.isBlank_eq_false_of_isFigure hfigure

/-! ## Items that open a scalar -/

/-- A list item that opens a block scalar by the value of its key: a dash behind some spaces, one
space or more, the key, a colon and a space, and the header of the scalar. -/
structure ItemScalar where
  dash : Nat
  gap : Nat
  key : Text
  header : Text
  gap_pos : 0 < gap := by decide
  key_ne_nil : key ≠ [] := by decide
  isKeyChar : key.all KeyValue.isKeyChar = true := by decide
  isHeader : Line.isScalarHeader header = true := by decide

namespace ItemScalar

variable (s : ItemScalar)

/-- The column at which the key stands, and the further keys of the entry with it. -/
def column : Nat := s.dash + 1 + s.gap

/-- The mapping that the item holds. -/
def entry : Text := s.key ++ ':' :: ' ' :: s.header

def text : Text :=
  List.replicate s.dash ' ' ++ '-' :: (List.replicate s.gap ' ' ++ s.entry)

theorem isKeyChar_of_mem {c : Char} (hc : c ∈ s.key) : KeyValue.isKeyChar c = true :=
  List.all_eq_true.mp s.isKeyChar c hc

theorem header_ne_nil : s.header ≠ [] := fun hnil => by
  have hheader := s.isHeader
  rw [hnil] at hheader
  cases hheader

theorem not_mem_entry {c : Char} (hkey : KeyValue.isKeyChar c = false)
    (hheader : Line.isHeaderChar c = false) (hsigns : c ∉ [':', ' ']) : c ∉ s.entry := by
  have hnot : c ∉ s.key ∧ c ∉ s.header :=
    ⟨fun hc => Text.ne_of_class (s.isKeyChar_of_mem hc) hkey rfl,
      fun hc => Text.ne_of_class (Line.isHeaderChar_of_mem s.isHeader hc) hheader rfl⟩
  simp_all [entry]

theorem isHeaderChar_getLast : Line.isHeaderChar (s.header.getLast s.header_ne_nil) = true :=
  Line.isHeaderChar_of_mem s.isHeader (List.getLast_mem s.header_ne_nil)

/-- A line ends as the header at its end does. -/
theorem getLast?_any_append (start : Text) :
    (start ++ s.header).getLast?.any (!Text.isBlank ·) = true := by
  rw [List.getLast?_append, List.getLast?_eq_some_getLast s.header_ne_nil, Option.some_or,
    Option.any_some, Line.isBlank_eq_false_of_isHeaderChar s.isHeaderChar_getLast]
  rfl

/-- The mapping has no blanks around it. -/
theorem trim_entry : s.entry.trim = s.entry := by
  refine Text.trim_eq_self ?_ ?_
  · obtain ⟨c, rest, hkey⟩ := List.exists_cons_of_ne_nil s.key_ne_nil
    have hc := s.isKeyChar_of_mem (hkey ▸ List.mem_cons_self)
    simp [entry, hkey, KeyValue.isBlank_eq_false_of_isKeyChar hc]
  · simpa [entry] using s.getLast?_any_append (s.key ++ [':', ' '])

theorem withoutComment_header : s.header.withoutComment = s.header := by
  have hsign : '#' ∉ s.header := fun hc =>
    Text.ne_of_class (Line.isHeaderChar_of_mem s.isHeader hc) (d := '#') (by decide) rfl
  rw [Text.withoutComment, Text.beforeComment_eq_self hsign, Text.trimEnd]
  refine Text.dropEndWhile_eq_self fun c hc => ?_
  rw [List.getLast?_eq_some_getLast s.header_ne_nil] at hc
  exact Option.some.inj hc ▸ Line.isBlank_eq_false_of_isHeaderChar s.isHeaderChar_getLast

theorem read?_entry : KeyValue.read? s.entry = some ⟨s.key, some s.header⟩ := by
  have hspace : (' ' :: s.header).dropWhile Text.isSpaceOrTab = s.header := by
    obtain ⟨c, rest, hheader⟩ := List.exists_cons_of_ne_nil s.header_ne_nil
    have hc := Line.isBlank_eq_false_of_isHeaderChar
      (Line.isHeaderChar_of_mem s.isHeader (hheader ▸ List.mem_cons_self))
    rw [hheader, List.dropWhile_cons_of_pos (by decide), List.dropWhile_cons_of_neg
      (by simp [Text.isSpaceOrTab_eq_false_of_isBlank hc])]
  have hline : '\n' ∉ s.header := fun hc =>
    Text.ne_of_class (Line.isHeaderChar_of_mem s.isHeader hc) (d := '\n') (by decide) rfl
  rw [entry, KeyValue.read?_append_colon s.key_ne_nil fun c => s.isKeyChar_of_mem,
    if_pos (show Option.any Text.isSpaceOrTab (' ' :: s.header).head? = true from rfl), hspace,
    KeyValue.singleLine?_eq_some hline]
  rfl

variable {s} {l : Line} (h : l.raw = s.text)
include h

theorem trimmed_eq : l.trimmed = '-' :: (List.replicate s.gap ' ' ++ s.entry) := by
  have hmargin : ∀ c ∈ List.replicate s.dash ' ', Text.isBlank c = true := fun c hc =>
    (List.mem_replicate.mp hc).2 ▸ by decide
  rw [Line.trimmed, h, text, Text.trim_blank_append hmargin]
  refine Text.trim_eq_self rfl ?_
  simpa [entry] using
    s.getLast?_any_append ('-' :: (List.replicate s.gap ' ' ++ (s.key ++ [':', ' '])))

theorem indent_eq : l.indent = s.dash := by
  rw [Line.indent, h, text, List.takeWhile_append_of_pos fun c hc => by
    rw [(List.mem_replicate.mp hc).2]; rfl, List.takeWhile_cons_of_neg (by decide),
    List.append_nil, List.length_replicate]

theorem isListItem_eq : l.isListItem = true := by
  rw [Line.isListItem, Line.role, trimmed_eq h]
  rfl

theorem item_eq : l.item = s.entry := by
  have hspaces : ∀ c ∈ List.replicate s.gap ' ', c = ' ' := fun c hc => (List.mem_replicate.mp hc).2
  have hsign : '#' ∉ List.replicate s.gap ' ' ++ s.entry := by
    rw [List.mem_append, not_or]
    exact ⟨fun hc => by simpa using hspaces _ hc, s.not_mem_entry (by decide) (by decide) (by decide)⟩
  rw [Line.item, isListItem_eq h, if_pos rfl, trimmed_eq h, List.drop_succ_cons, List.drop_zero,
    Text.withoutComment, Text.beforeComment_eq_self hsign, Text.trim_trimEnd,
    Text.trim_blank_append (fun c hc => hspaces c hc ▸ by decide), s.trim_entry]

theorem headsScalar : l.HeadsScalar := by
  refine .inr ⟨isListItem_eq h, .inr ⟨⟨s.key, some s.header⟩, s.header, ?_, rfl, ?_⟩⟩
  · rw [item_eq h, s.read?_entry]
  · rw [s.withoutComment_header, s.isHeader]

end ItemScalar

namespace Document

variable {text : Text} {i j : Nat} {l m : Line}
variable (hl : (ofText text)[j]? = some l) (hfree : l.inScalar = false) (hheads : l.HeadsScalar)
include hl hfree hheads

/-- Below an opener the first line that need not be held is scalar text only to this opener. -/
theorem inScalar_iff_of_holds (hj : j < i) (hm : (ofText text)[i]? = some m)
    (hshown : m.isBlank = false)
    (hholds : ∀ k n, j < k → k < i → (ofText text)[k]? = some n →
      n.isBlank = true ∨ l.indent < n.indent) :
    m.inScalar = true ↔ l.indent < m.indent := by
  have hopens : (ofText text).OpensUntil j i l := ⟨hl, hfree, hheads, hholds⟩
  have hsucc : (ofText text).OpensUntil j (i + 1) l ↔ _ := opensUntil_succ hm hj
  rw [inScalar_iff hm]
  constructor
  · rintro ⟨k, hk, opener, hopener⟩
    rcases Nat.lt_trichotomy k j with hlt | rfl | hgt
    · -- an opener further up would hold this one
      have hmarked := (inScalar_iff hl).mpr ⟨k, hlt, opener, hopener.of_le (by omega)⟩
      rw [hfree] at hmarked
      cases hmarked
    · obtain rfl : l = opener := Option.some.inj (hl.symm.trans hopener.line)
      exact (hsucc.mp hopener).2.resolve_left (by simp [hshown])
    · -- an opener below this one is held by it
      have hmarked := (inScalar_iff hopener.line).mpr ⟨j, hgt, l, hopens.of_le (by omega)⟩
      rw [hopener.free] at hmarked
      cases hmarked
  · intro hindent
    exact ⟨j, hj, l, hsucc.mpr ⟨hopens, .inr hindent⟩⟩

end Document

/-- **Where a scalar that an item opens ends.** Take a list item that opens a block scalar by the
value of its key. A line below is scalar text on its account if and only if all lines down to it are
blank or deeper than the dash. So the first line that is not deeper than the key, where the value of
the key ends, is scalar text all the same if and only if it is deeper than the dash. -/
theorem item_scalar_ends_at_dash {text : Text} {j : Nat} {l : Line} {s : ItemScalar}
    (hl : (Document.ofText text)[j]? = some l) (hfree : l.inScalar = false)
    (hraw : l.raw = s.text) :
    let doc := Document.ofText text
    (∀ i, doc.OpensUntil j (i + 1) l ↔ ∀ k n, j < k → k ≤ i → doc[k]? = some n →
      n.isBlank = true ∨ s.dash < n.indent) ∧
    ∀ i m, j < i → doc[i]? = some m → m.isBlank = false →
      (∀ k n, j < k → k < i → doc[k]? = some n → n.isBlank = true ∨ s.column < n.indent) →
      (m.inScalar = true ↔ s.dash < m.indent) := by
  intro doc
  have hheads := s.headsScalar hraw
  have hindent := s.indent_eq hraw
  constructor
  · intro i
    constructor
    · intro h k n hj hk hn
      exact hindent ▸ h.holds k n hj (Nat.lt_succ_of_le hk) hn
    · intro h
      exact ⟨hl, hfree, hheads, fun k n hj hk hn => hindent ▸ h k n hj (Nat.le_of_lt_succ hk) hn⟩
  · intro i m hj hm hshown hdeeper
    rw [← hindent]
    refine Document.inScalar_iff_of_holds hl hfree hheads hj hm hshown fun k n hj hk hn => ?_
    have hcolumn : l.indent < s.column := by rw [hindent, ItemScalar.column]; omega
    exact (hdeeper k n hj hk hn).imp_right hcolumn.trans

/-- A line between the dash and the key is scalar text, and the next item is not. -/
theorem item_scalar_ends_at_next_item :
    let doc := Document.ofText "a:\n  -  b: |-\n      c\n\n   d: e\n  - f".toList
    let s : ItemScalar := { dash := 2, gap := 2, key := "b".toList, header := "|-".toList }
    let item : Line := ⟨2, s.text, false⟩
    let between : Line := ⟨5, "   d: e".toList, true⟩
    doc[1]? = some item ∧ doc[4]? = some between ∧ between.indent < s.column ∧
      between.inScalar = true ∧ doc.OpensUntil 1 5 item ∧ ¬doc.OpensUntil 1 6 item := by
  intro doc s item between
  have hitem : doc[1]? = some item := by decide
  have hbetween : doc[4]? = some between := by decide
  obtain ⟨hopens, hend⟩ := item_scalar_ends_at_dash (s := s) hitem rfl rfl
  have habove : ∀ k < 4, 1 < k → ∀ n ∈ doc[k]?, n.isBlank = true ∨ s.column < n.indent := by decide
  have hheld : ∀ k < 5, 1 < k → ∀ n ∈ doc[k]?, n.isBlank = true ∨ s.dash < n.indent := by decide
  refine ⟨hitem, hbetween, by decide, ?_, ?_, ?_⟩
  · exact (hend 4 between (by decide) hbetween (by decide) fun k n hlow hhigh =>
      habove k hhigh hlow n).mpr (by decide)
  · exact (hopens 4).mpr fun k n hlow hhigh => hheld k (Nat.lt_succ_of_le hhigh) hlow n
  · intro h
    have hnext := (hopens 5).mp h 5 ⟨6, "  - f".toList, false⟩ (by decide) (by decide) (by decide)
    revert hnext
    decide

/-- The next key of an entry stands at the column of the first one, and is scalar text of it. -/
theorem item_scalar_takes_next_key :
    let doc := Document.ofText "- a: |\n    b\n  c: d".toList
    let s : ItemScalar := { dash := 0, gap := 1, key := "a".toList, header := "|".toList }
    ∃ item next, doc[0]? = some item ∧ item.inScalar = false ∧ item.raw = s.text ∧
      doc[2]? = some next ∧ next.isBlank = false ∧ next.indent ≤ s.column ∧
      next.inScalar = true ∧ doc.OpensUntil 0 3 item := by
  intro doc s
  have hheld : ∀ k < 3, 0 < k → ∀ n ∈ doc[k]?, n.isBlank = true ∨ s.dash < n.indent := by decide
  refine ⟨⟨1, s.text, false⟩, ⟨3, "  c: d".toList, true⟩, by decide, rfl, rfl, by decide, by decide,
    by decide, rfl, by decide, rfl, Line.opensScalar_iff.mp (by decide), fun k n hlow hhigh => ?_⟩
  exact hheld k hhigh hlow n

end ComposeLint
