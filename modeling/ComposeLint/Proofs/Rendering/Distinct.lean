import ComposeLint.Proofs.RepeatedKeys
import ComposeLint.Proofs.Rendering.Segment

/-! # Rows without repeated keys

A key counts as repeated only while it is in sight: the next row to the left of it hides it. So rows
that are written segment by segment repeat a key only if two headers do or if one of the bodies does
(`isRepeatFree_flatMap`), and keys of one name in different segments do not meet. -/

namespace ComposeLint

namespace Row

/-- No row in sight of the indent gives the key there. -/
def Unseen (indent : Nat) (key : Text) (rows : List Row) : Prop :=
  ∀ r ∈ rows.takeWhile (indent ≤ ·.indent), r.indent = indent → r.key? ≠ some key

/-- No row gives a key that is still in sight. -/
def IsRepeatFree : List Row → Prop
  | [] => True
  | r :: rest => (∀ key, r.key? = some key → Unseen r.indent key rest) ∧ IsRepeatFree rest

section
variable {indent : Nat} {key : Text} {a b rows : List Row}

theorem unseen_of_forall (h : ∀ r ∈ rows, r.indent = indent → r.key? ≠ some key) :
    Unseen indent key rows := fun r hr =>
  h r ((List.takeWhile_sublist _).mem hr)

/-- Rows that start to the left of a key are not in sight of it. -/
theorem unseen_of_head? (h : rows.head?.all (·.indent < indent) = true) :
    Unseen indent key rows := by
  cases rows with
  | nil => exact unseen_of_forall (by simp)
  | cons r rest =>
    have hleft : r.indent < indent := by simpa using h
    intro other hother
    rw [List.takeWhile_cons_of_neg (by simpa using hleft)] at hother
    cases hother

theorem unseen_cons {r : Row} : Unseen indent key (r :: rest) ↔
    (indent ≤ r.indent → (r.indent = indent → r.key? ≠ some key) ∧ Unseen indent key rest) := by
  unfold Unseen
  rw [List.takeWhile_cons]
  split <;> simp_all

theorem unseen_append (ha : Unseen indent key a) (hb : Unseen indent key b) :
    Unseen indent key (a ++ b) := by
  induction a with
  | nil => exact hb
  | cons r rest ih =>
    rw [List.cons_append, unseen_cons]
    rw [unseen_cons] at ha
    exact fun hle => ⟨(ha hle).1, ih (ha hle).2⟩

theorem isRepeatFree_append (ha : IsRepeatFree a) (hb : IsRepeatFree b)
    (h : ∀ r ∈ a, ∀ key, r.key? = some key → Unseen r.indent key b) : IsRepeatFree (a ++ b) := by
  induction a with
  | nil => exact hb
  | cons r rest ih =>
    exact ⟨fun key hkey => unseen_append (ha.1 key hkey) (h r (by simp) key hkey),
      ih ha.2 fun other hother => h other (by simp [hother])⟩

/-- Rows without keys repeat none. -/
theorem isRepeatFree_of_key? (h : ∀ r ∈ rows, r.key? = none) : IsRepeatFree rows := by
  induction rows with
  | nil => trivial
  | cons r rest ih =>
    refine ⟨fun key hkey => ?_, ih fun other hother => h other (by simp [hother])⟩
    rw [h r (by simp)] at hkey
    cases hkey

end

theorem key?_of_isItem {r : Row} (h : r.isItem = true) : r.key? = none := by
  cases r with
  | key | pair => cases h
  | item => rfl

end Row

namespace Segment

open Row (IsRepeatFree)

variable {k : Nat} {segments : List Segment}

/-- Below the header of a segment a key stands deeper. -/
theorem StandsAt.lt_indent {t : Segment} (ht : t.StandsAt k) {r : Row} (hr : r ∈ t.body)
    {key : Text} (hkey : r.key? = some key) : k < r.indent := by
  rcases ht.body r hr with hlt | ⟨-, hitem⟩
  · exact hlt
  · rw [Row.key?_of_isItem hitem] at hkey
    cases hkey

/-- **Segments next to each other.** If their headers have different keys and none of their bodies
repeats a key, then neither do all of their rows. -/
theorem isRepeatFree_flatMap (hstands : ∀ t ∈ segments, t.StandsAt k)
    (hbody : ∀ t ∈ segments, IsRepeatFree t.body)
    (hkeys : (segments.map (·.header.key?)).Nodup) : IsRepeatFree (segments.flatMap rows) := by
  induction segments with
  | nil => trivial
  | cons s others ih =>
    obtain ⟨hfirst, hothers⟩ := List.nodup_cons.mp hkeys
    have hs := hstands s (by simp)
    have hrest := ih (fun t ht => hstands t (by simp [ht])) (fun t ht => hbody t (by simp [ht]))
      hothers
    have hheader (key : Text) (hkey : s.header.key? = some key) :
        Row.Unseen s.header.indent key (s.body ++ others.flatMap rows) := by
      refine Row.unseen_of_forall fun r hr hindent hsame => ?_
      rw [hs.indent] at hindent
      rcases List.mem_append.mp hr with hr | hr
      · have := hs.lt_indent hr hsame
        omega
      · obtain ⟨t, ht, hr⟩ := List.mem_flatMap.mp hr
        rcases List.mem_cons.mp hr with rfl | hr
        · exact hfirst (List.mem_map.mpr ⟨t, ht, hsame.trans hkey.symm⟩)
        · have := (hstands t (by simp [ht])).lt_indent hr hsame
          omega
    have hhidden (r : Row) (hr : r ∈ s.body) (key : Text) (hkey : r.key? = some key) :
        Row.Unseen r.indent key (others.flatMap rows) := by
      refine Row.unseen_of_head? ?_
      cases others with
      | nil => rfl
      | cons t rest =>
        have hindent := (hstands t (by simp)).indent
        simp [rows, hindent, hs.lt_indent hr hkey]
    rw [List.flatMap_cons, rows, List.cons_append]
    exact ⟨hheader, Row.isRepeatFree_append (hbody s (by simp)) hrest hhidden⟩

end Segment

/-! ## The scan for duplicate keys -/

namespace Check

/-- What is no content tells the scan nothing. -/
theorem duplicateKeysFrom_eq_nil {lines : List Line} (h : ∀ l ∈ lines, l.isContent = false)
    (levels : List KeyLevel) : duplicateKeysFrom levels lines = [] := by
  induction lines with
  | nil => rfl
  | cons l rest ih =>
    rw [duplicateKeysFrom, h l (by simp)]
    exact ih fun m hm => h m (by simp [hm])

/-- The scan reports nothing in rows that repeat no key, neither one of their own nor one that the
open levels know. -/
theorem duplicateKeysFrom_lines {rows : List Row} (hclean : ∀ r ∈ rows, r.isClean = true)
    (hfree : Row.IsRepeatFree rows) {tail : List Line} (htail : ∀ l ∈ tail, l.isContent = false) :
    ∀ {levels}, Descending levels →
      (∀ indent key, lastGiven levels indent key ≠ none → Row.Unseen indent key rows) →
      ∀ n, duplicateKeysFrom levels (Row.lines n rows ++ tail) = [] := by
  induction rows with
  | nil => exact fun {levels} _ _ _ => duplicateKeysFrom_eq_nil htail levels
  | cons r rest ih =>
    intro levels hlevels hunseen n
    have hr := hclean r (by simp)
    have hissue : repeatIssue? levels (r.line n) = none := by
      unfold repeatIssue?
      rw [Row.line_isContent n hr, Row.line_inScalar n hr, if_neg (by simp), Row.line_key? n hr,
        Row.line_indent n hr, Option.bind_eq_none_iff]
      intro key hkey
      rw [Option.map_eq_none_iff]
      by_contra hknown
      exact (Row.unseen_cons.mp (hunseen r.indent key hknown) le_rfl).1 rfl hkey
    have hnext : ∀ indent key, lastGiven (levelsAfter levels (r.line n)) indent key ≠ none →
        Row.Unseen indent key rest := by
      intro indent key hknown
      rw [lastGiven_levelsAfter hlevels, Row.line_isContent n hr, Row.line_inScalar n hr,
        if_neg (by simp), Row.line_key? n hr, Row.line_indent n hr] at hknown
      split at hknown
      · exact absurd rfl hknown
      · next hshown =>
        split at hknown
        · next hgives => exact hgives.2 ▸ hfree.1 key hgives.1
        · exact (Row.unseen_cons.mp (hunseen indent key hknown) (by omega)).2
    rw [Row.lines_cons, List.cons_append, duplicateKeysFrom_cons hlevels, hissue,
      ih (fun s hs => hclean s (by simp [hs])) hfree.2 (descending_levelsAfter hlevels _) hnext]
    rfl

end Check

end ComposeLint
