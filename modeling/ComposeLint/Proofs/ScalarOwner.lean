import ComposeLint.Proofs.Document.Lines

/-! # The owner of scalar text

Marking goes through a document once, and all that it knows of the lines above is the indent of the
scalar that is open. The scalar has been open since some line that was read for itself, and every
line after that one was held by it (`holderAfter_take`). So scalar text has an owner above it, only
one, and the lines below have no say in it. -/

namespace ComposeLint

/-- A key or an item with the header of a block scalar for a value. An item may have it in place of
a mapping, or as the value of the mapping that it holds. -/
def Line.HeadsScalar (l : Line) : Prop :=
  (∃ key value, l.role = .mappingKey key value ∧ isScalarHeader value = true) ∨
    l.isListItem = true ∧
      (isScalarHeader l.item = true ∨
        ∃ entry value, KeyValue.read? l.item = some entry ∧ entry.value? = some value ∧
          isScalarHeader value.withoutComment = true)

/-- No text is both a header and a mapping, since a header starts with a sign that no key has. -/
theorem Line.read?_of_isScalarHeader {t : Text} (h : isScalarHeader t = true) :
    KeyValue.read? t = none := by
  cases t with
  | nil => rfl
  | cons c rest =>
    have hsign : KeyValue.isKeyChar c = false := by
      simp only [isScalarHeader, Bool.and_eq_true, Bool.or_eq_true, beq_iff_eq] at h
      rcases h.1 with rfl | rfl <;> decide
    simp [KeyValue.read?, hsign]

theorem Line.opensScalar_iff {l : Line} : l.opensScalar = true ↔ l.HeadsScalar := by
  unfold opensScalar HeadsScalar isListItem
  cases hrole : l.role with
  | blank | comment | unknown => simp
  | mappingKey key value => simp
  | listItem =>
    cases hread : KeyValue.read? l.item with
    | none => simp
    | some entry =>
      have hheader : isScalarHeader l.item = false := by
        rw [Bool.eq_false_iff]
        intro h
        rw [read?_of_isScalarHeader h] at hread
        cases hread
      obtain ⟨key, value?⟩ := entry
      cases value? with
      | none => simp [KeyValue.value, Text.nonempty?, hheader]
      | some value =>
        cases value with
        | nil => simp [KeyValue.value, Text.nonempty?, isScalarHeader, Text.withoutComment,
            Text.beforeComment, Text.trimEnd, Text.dropEndWhile]
        | cons c rest => simp [KeyValue.value, Text.nonempty?, hheader]

namespace Document

/-- Line `j` opens a block scalar, and every line after it and before line `n` is held by it. -/
structure OpensUntil (doc : Document) (j n : Nat) (opener : Line) : Prop where
  line : doc[j]? = some opener
  free : opener.inScalar = false
  heads : opener.HeadsScalar
  holds : ∀ k l, j < k → k < n → doc[k]? = some l → l.isBlank = true ∨ opener.indent < l.indent

section
variable {doc : Document} {j n : Nat} {l opener : Line}

/-- An opener holds one line more if it holds the next one. -/
theorem opensUntil_succ (hl : doc[n]? = some l) (hj : j < n) :
    doc.OpensUntil j (n + 1) opener ↔
      doc.OpensUntil j n opener ∧ (l.isBlank = true ∨ opener.indent < l.indent) := by
  constructor
  · intro h
    exact ⟨⟨h.line, h.free, h.heads, fun k m hlow hhigh => h.holds k m hlow (by omega)⟩,
      h.holds n l hj (by omega) hl⟩
  · rintro ⟨h, hheld⟩
    refine ⟨h.line, h.free, h.heads, fun k m hlow hhigh hm => ?_⟩
    rcases Nat.lt_succ_iff_lt_or_eq.mp hhigh with hlt | rfl
    · exact h.holds k m hlow hlt hm
    · obtain rfl : l = m := Option.some.inj (hl.symm.trans hm)
      exact hheld

/-- What holds down to some line holds down to every line before it. -/
theorem OpensUntil.of_le {m : Nat} (h : doc.OpensUntil j n opener) (hle : m ≤ n) :
    doc.OpensUntil j m opener :=
  ⟨h.line, h.free, h.heads, fun k l hlow hhigh => h.holds k l hlow (by omega)⟩

/-- At its own line an opener has nothing to hold yet. -/
theorem opensUntil_self : doc.OpensUntil n (n + 1) opener ↔
    doc[n]? = some opener ∧ opener.inScalar = false ∧ opener.HeadsScalar :=
  ⟨fun h => ⟨h.line, h.free, h.heads⟩,
    fun ⟨hline, hfree, hheads⟩ => ⟨hline, hfree, hheads, fun k _ _ _ _ => by omega⟩⟩

end

/-! ## Marking, line by line -/

theorem isHeld_some {indent : Nat} {l : Line} :
    isHeld (some indent) l = true ↔ l.isBlank = true ∨ indent < l.indent := by
  simp [isHeld]

theorem holderAfter_append (a b : List Line) : ∀ holder,
    holderAfter holder (a ++ b) = holderAfter (holderAfter holder a) b := by
  induction a with
  | nil => exact fun _ => rfl
  | cons l rest ih =>
    intro holder
    rw [List.cons_append, holderAfter, holderAfter]
    split
    · exact ih _
    · exact ih _

/-- The mark of a line depends on what is open after the lines above it. -/
theorem getElem?_markScalars (lines : List Line) : ∀ (holder : Option Nat) (i : Nat),
    (markScalars holder lines)[i]? = lines[i]?.map fun l =>
      if isHeld (holderAfter holder (lines.take i)) l then { l with inScalar := true } else l := by
  induction lines with
  | nil => exact fun _ _ => rfl
  | cons l rest ih =>
    intro holder i
    cases h : isHeld holder l with
    | true =>
      rw [markScalars_cons_held h]
      cases i with
      | zero => simp [holderAfter, h]
      | succ i => simpa [holderAfter, h] using ih holder i
    | false =>
      rw [markScalars_cons_free h]
      cases i with
      | zero => simp [holderAfter, h]
      | succ i => simpa [holderAfter, h] using ih _ i

/-- **What is open after some lines.** A scalar of some indent is open if and only if a line of this
indent opened it that is no scalar text itself, and every line since then was held. -/
theorem holderAfter_take {lines : List Line} (hfree : ∀ l ∈ lines, l.inScalar = false)
    {indent : Nat} : ∀ n ≤ lines.length,
    (holderAfter none (lines.take n) = some indent ↔
      ∃ j < n, ∃ opener, OpensUntil (markScalars none lines) j n opener ∧
        opener.indent = indent) := by
  intro n
  induction n with
  | zero => simp [holderAfter]
  | succ n ih =>
    intro hn
    have hlast : lines[n]? = some lines[n] := List.getElem?_eq_getElem (by omega)
    have hmarked := getElem?_markScalars lines none n
    have hopen := ih (by omega)
    rw [hlast, Option.map_some] at hmarked
    rw [List.take_add_one, hlast, Option.toList_some, holderAfter_append]
    cases hheld : isHeld (holderAfter none (lines.take n)) lines[n] with
    | true =>
      rw [hheld, if_pos rfl] at hmarked
      rw [holderAfter, hheld, if_pos rfl, holderAfter, hopen]
      constructor
      · rintro ⟨j, hj, opener, hopener, rfl⟩
        rw [hopen.mpr ⟨j, hj, opener, hopener, rfl⟩, isHeld_some] at hheld
        exact ⟨j, by omega, opener, (opensUntil_succ hmarked hj).mpr ⟨hopener, hheld⟩, rfl⟩
      · rintro ⟨j, hj, opener, hopener, rfl⟩
        rcases Nat.lt_succ_iff_lt_or_eq.mp hj with hj | rfl
        · exact ⟨j, hj, opener, ((opensUntil_succ hmarked hj).mp hopener).1, rfl⟩
        · -- what is held is marked, so it opens nothing
          obtain rfl := Option.some.inj (hmarked.symm.trans hopener.line)
          cases hopener.free
    | false =>
      rw [hheld, if_neg Bool.false_ne_true] at hmarked
      rw [holderAfter, hheld, if_neg Bool.false_ne_true, holderAfter]
      constructor
      · intro h
        split at h
        · next hopens =>
          exact ⟨n, by omega, lines[n], opensUntil_self.mpr ⟨hmarked, hfree _ (List.getElem_mem _),
            Line.opensScalar_iff.mp hopens⟩, Option.some.inj h⟩
        · cases h
      · rintro ⟨j, hj, opener, hopener, rfl⟩
        rcases Nat.lt_succ_iff_lt_or_eq.mp hj with hj | rfl
        · -- an opener further up would hold this line
          obtain ⟨hopener, hholds⟩ := (opensUntil_succ hmarked hj).mp hopener
          rw [hopen.mpr ⟨j, hj, opener, hopener, rfl⟩, isHeld_some.mpr hholds] at hheld
          cases hheld
        · obtain rfl := Option.some.inj (hmarked.symm.trans hopener.line)
          rw [Line.opensScalar_iff.mpr hopener.heads, if_pos rfl]

/-- A line is marked if and only if a line above opened a scalar that still holds it. -/
theorem inScalar_iff {text : Text} {i : Nat} {l : Line} (hl : (ofText text)[i]? = some l) :
    l.inScalar = true ↔ ∃ j < i, ∃ opener, (ofText text).OpensUntil j (i + 1) opener := by
  have hfree : ∀ m ∈ numberFrom 1 (text.splitOn '\n'), m.inScalar = false := by
    intro m hm
    obtain ⟨t, -, n, rfl⟩ := exists_of_mem_numberFrom hm
    rfl
  rw [ofText_eq] at hl ⊢
  generalize numberFrom 1 (text.splitOn '\n') = lines at hfree hl ⊢
  have hmarked := getElem?_markScalars lines none i
  obtain ⟨m, hm, hread⟩ := Option.map_eq_some_iff.mp (hmarked.symm.trans hl)
  obtain ⟨hi, rfl⟩ := List.getElem?_eq_some_iff.mp hm
  have hself := hfree _ (List.getElem_mem hi)
  have hheld : l.inScalar = isHeld (holderAfter none (lines.take i)) lines[i] ∧
      l.isBlank = lines[i].isBlank ∧ l.indent = lines[i].indent := by
    cases h : isHeld (holderAfter none (lines.take i)) lines[i] <;> rw [h] at hread <;>
      subst hread
    · exact ⟨hself, rfl, rfl⟩
    · exact ⟨rfl, rfl, rfl⟩
  have hstep (j : Nat) (hj : j < i) (opener : Line) :=
    (opensUntil_succ hl hj : OpensUntil _ j (i + 1) opener ↔ _)
  rw [hheld.1]
  constructor
  · intro h
    cases hopen : holderAfter none (lines.take i) with
    | none => rw [hopen] at h; cases h
    | some indent =>
      obtain ⟨j, hj, opener, hopener, rfl⟩ := (holderAfter_take hfree i hi.le).mp hopen
      rw [hopen, isHeld_some, ← hheld.2.1, ← hheld.2.2] at h
      exact ⟨j, hj, opener, (hstep j hj opener).mpr ⟨hopener, h⟩⟩
  · rintro ⟨j, hj, opener, hopener⟩
    obtain ⟨hopener, h⟩ := (hstep j hj opener).mp hopener
    rw [hheld.2.1, hheld.2.2] at h
    rw [(holderAfter_take hfree i hi.le).mpr ⟨j, hj, opener, hopener, rfl⟩]
    exact isHeld_some.mpr h

/-- A line that is held opens nothing, so of two openers the lower one would be scalar text of the
upper one. -/
theorem OpensUntil.eq_of_le {text : Text} {i j k : Nat} {a b : Line}
    (ha : (ofText text).OpensUntil j (i + 1) a) (hb : (ofText text).OpensUntil k (i + 1) b)
    (hk : k ≤ i) : k ≤ j := by
  by_contra hlt
  have hupper : (ofText text).OpensUntil j (k + 1) a := ha.of_le (by omega)
  have hmarked := (inScalar_iff hb.line).mpr ⟨j, by omega, a, hupper⟩
  rw [hb.free] at hmarked
  cases hmarked

/-- The lines of a text are the first lines of any text that goes on with further lines. -/
theorem ofText_prefix (text tail : Text) : ofText text <+: ofText (text ++ '\n' :: tail) := by
  have hsplit : (text ++ '\n' :: tail).splitOn '\n' = text.splitOn '\n' ++ tail.splitOn '\n' :=
    List.splitOnP_append_cons text tail (beq_self_eq_true '\n')
  rw [ofText_eq, ofText_eq, hsplit, numberFrom_append, markScalars_append]
  exact List.prefix_append _ _

end Document

/-- **Whose text scalar text is.** A line of a document is marked as scalar text if and only if some
line above it, which is no scalar text itself, has the header of a block scalar for a value, and all
lines after that one down to this one are blank or indented deeper than it. There is only one such
line for every marked line. Marking never looks ahead: the lines of a text are marked alike whatever
lines follow them. -/
theorem scalarText_has_one_owner (text : Text) :
    let doc := Document.ofText text
    (∀ i l, doc[i]? = some l →
      (l.inScalar = true ↔ ∃ j < i, ∃ opener, doc.OpensUntil j (i + 1) opener)) ∧
    (∀ i j k a b, j < i → k < i → doc.OpensUntil j (i + 1) a → doc.OpensUntil k (i + 1) b →
      j = k) ∧
    ∀ tail, doc <+: Document.ofText (text ++ '\n' :: tail) := by
  intro doc
  refine ⟨fun i l hl => Document.inScalar_iff hl, fun i j k a b hj hk ha hb => ?_,
    Document.ofText_prefix text⟩
  exact le_antisymm (hb.eq_of_le ha hj.le) (ha.eq_of_le hb hk.le)

/-- What looks like a header inside of scalar text opens nothing. -/
example : (Document.ofText "a: |\n  b: >\n\n c\nd: 1".toList).map Line.inScalar =
    [false, true, true, true, false] := by decide

end ComposeLint
