import ComposeLint.Proofs.Alike.Shape
import ComposeLint.Proofs.Document.Sections
import ComposeLint.Proofs.Quoting.Word

/-! # Lines with a word in them

A word stands on a line as a value, between the brackets of a value, as an item or as a key. However
it is spelled there, the line has one shape, and what is read off it is the same but for the
spelling. -/

namespace ComposeLint

namespace Text

/-- A key that is not taken for an item or a comment. -/
def IsKey (key : Text) : Prop :=
  (∃ c rest, key = c :: rest ∧ c ≠ '#' ∧ c ≠ '-') ∧ ∀ c ∈ key, KeyValue.isKeyChar c = true

/-- A margin, the key, its colon, and spaces or tabs in front of a value. -/
inductive LeadsTo (key : Text) : Text → Prop
  | intro {margin gap pad : Text} (hmargin : ∀ c ∈ margin, isBlank c = true) (hkey : key.IsKey)
    (hgap : ∀ c ∈ gap, isBlank c = true) (hne : pad ≠ []) (hpad : ∀ c ∈ pad, isSpaceOrTab c = true) :
    LeadsTo key (margin ++ (key ++ (gap ++ ':' :: pad)))

end Text

namespace KeyValue

/-- What follows the colon of a key, if it may follow a key at all. -/
def readTail? (tail : Text) : Option (Option Text) :=
  if tail.head?.any Text.isSpaceOrTab then
    (Text.singleLine? (tail.dropWhile Text.isSpaceOrTab)).map some
  else if tail.isEmpty || tail == ['\n'] then some none
  else none

theorem read?_keyed {key gap : Text} (hne : key ≠ []) (hkey : ∀ c ∈ key, isKeyChar c = true)
    (hgap : ∀ c ∈ gap, Text.isBlank c = true) (tail : Text) :
    read? (key ++ (gap ++ ':' :: tail)) = (readTail? tail).map (⟨key, ·⟩) := by
  obtain ⟨htake, -, hcolon⟩ := parts_of_key hkey hgap tail
  rw [read?_of_colon (by rwa [htake]) hcolon, htake, readTail?]
  split
  · rw [Option.map_map]
    rfl
  · split <;> rfl

end KeyValue

/-- The role of a text that starts with a key. -/
theorem Role.ofTrimmed_keyed_gap {key gap : Text} {c : Char} {rest : Text} (hcons : key = c :: rest)
    (hc : c ≠ '#' ∧ c ≠ '-') (hkey : ∀ d ∈ key, KeyValue.isKeyChar d = true)
    (hgap : ∀ d ∈ gap, Text.isBlank d = true) (tail : Text) :
    Role.ofTrimmed (key ++ (gap ++ ':' :: tail)) = (KeyValue.readTail? tail).elim .unknown
      fun value? => .mappingKey key (Text.trim (Text.withoutComment (value?.getD []))) := by
  have hread := KeyValue.read?_keyed (hcons ▸ List.cons_ne_nil c rest) hkey hgap tail
  rw [hcons] at hread ⊢
  rw [List.cons_append, Role.ofTrimmed_eq_of_head hc, ← List.cons_append, hread]
  cases KeyValue.readTail? tail <;> rfl

namespace Text

/-- A value is read whole, less its comment. -/
theorem LeadsTo.role_append {key before : Text} (h : LeadsTo key before) {c : Char} {rest : Text}
    (hc : isBlank c = false) (hnl : '\n' ∉ c :: rest) :
    Role.ofTrimmed (trim (before ++ c :: rest)) =
      .mappingKey key (trim (withoutComment (c :: rest))) := by
  obtain @⟨margin, gap, pad, hmargin, hkey, hgap, hne, hpad⟩ := h
  obtain ⟨⟨d, others, hcons, hd⟩, hchars⟩ := hkey
  have htrim : trim (margin ++ (key ++ (gap ++ ':' :: pad)) ++ c :: rest) =
      key ++ (gap ++ ':' :: (pad ++ trimEnd (c :: rest))) := by
    have hblank : isBlank d = false := KeyValue.isBlank_eq_false_of_isKeyChar
      (hchars d (hcons ▸ List.mem_cons_self))
    have hassoc (tail : Text) : key ++ (gap ++ ':' :: (pad ++ tail)) =
        (key ++ (gap ++ ':' :: pad)) ++ tail := by simp
    have hend (start : Text) : trimEnd (start ++ c :: rest) = start ++ trimEnd (c :: rest) :=
      (dropEndWhile_append_cons hc start rest).trans
        (congrArg _ (dropEndWhile_append_cons hc [] rest).symm)
    rw [List.append_assoc, trim_blank_append hmargin, hassoc, trim, trimStart, hcons,
      List.cons_append, List.cons_append, List.dropWhile_cons_of_neg (by simp [hblank]),
      ← List.cons_append, ← List.cons_append, hend]
  have hvalue : KeyValue.readTail? (pad ++ trimEnd (c :: rest)) =
      some (some (trimEnd (c :: rest))) := by
    obtain ⟨e, pad', rfl⟩ := List.exists_cons_of_ne_nil hne
    have hcut : trimEnd (c :: rest) = c :: trimEnd rest := dropEndWhile_append_cons hc [] rest
    have hdrop : (e :: pad' ++ trimEnd (c :: rest)).dropWhile isSpaceOrTab = trimEnd (c :: rest) := by
      rw [List.dropWhile_append_of_pos hpad, hcut,
        List.dropWhile_cons_of_neg (by simp [isSpaceOrTab_eq_false_of_isBlank hc])]
    have hsingle : singleLine? (trimEnd (c :: rest)) = some (trimEnd (c :: rest)) :=
      KeyValue.singleLine?_eq_some fun hmem => hnl (mem_of_mem_dropEndWhile hmem)
    rw [KeyValue.readTail?, if_pos (by simpa using hpad e List.mem_cons_self), hdrop, hsingle]
    rfl
  rw [htrim, Role.ofTrimmed_keyed_gap hcons hd hchars hgap, hvalue, Option.elim_some,
    Option.getD_some, withoutComment_trimEnd]

namespace Spelling

variable {w t : Text} (hw : w.IsWord) (h : Spelling w t)
include hw h

/-- A word that is the whole value. -/
theorem role_value {key before after : Text} (hlead : LeadsTo key before)
    (hrest : after.remainder = []) (hnl : '\n' ∉ after) :
    Role.ofTrimmed (trim (before ++ (t ++ after))) = .mappingKey key t := by
  have hnl' : '\n' ∉ t ++ after := by
    rw [List.mem_append, not_or]
    exact ⟨h.not_mem hw (by decide), hnl⟩
  have hvalue : withoutComment (t ++ after) = t := by
    have hscan := h.withoutComment_append hw (isClosed_of_plain (a := []) nofun) after
    rwa [hrest, List.append_nil, List.nil_append, List.nil_append] at hscan
  obtain ⟨c, rest, rfl, hc⟩ := h.exists_cons hw
  have hblank := KeyValue.isBlank_eq_false_of_isKeyChar (isKeyChar_of_isSpellingChar hc)
  rw [List.cons_append] at hnl' hvalue
  rw [List.cons_append, hlead.role_append hblank hnl', hvalue, h.trim_eq hw]

/-- A word between brackets. -/
theorem role_brackets {key lead front back after : Text} (hlead : LeadsTo key lead)
    (hfront : IsClosed ('[' :: front)) (hrest : after.remainder = back ++ [']'])
    (hnl : '\n' ∉ front ∧ '\n' ∉ after) :
    Role.ofTrimmed (trim (lead ++ '[' :: front ++ (t ++ after))) =
      .mappingKey key ('[' :: (front ++ (t ++ back) ++ [']'])) := by
  have hnl' : '\n' ∉ '[' :: (front ++ (t ++ after)) := by
    simp [hnl, h.not_mem hw (c := '\n') (by decide)]
  have hvalue : withoutComment ('[' :: (front ++ (t ++ after))) =
      '[' :: (front ++ (t ++ back) ++ [']']) := by
    have hscan := h.withoutComment_append hw hfront after
    rw [hrest] at hscan
    simpa using hscan
  have htrim : trim ('[' :: (front ++ (t ++ back) ++ [']'])) =
      '[' :: (front ++ (t ++ back) ++ [']']) := by
    have hend := dropEndWhile_append_cons (p := isBlank) (c := ']') (by decide)
      ('[' :: (front ++ (t ++ back))) []
    rw [trim, trimStart, List.dropWhile_cons_of_neg (by decide)]
    exact hend
  rw [List.append_assoc, List.cons_append, hlead.role_append (by decide) hnl', hvalue, htrim]

/-- A word that is a whole item. -/
theorem item_eq {margin gap after : Text} (hmargin : ∀ c ∈ margin, isBlank c = true)
    (hgap : ∀ c ∈ gap, isBlank c = true) (hrest : after.remainder = []) :
    ∃ rest, trim (margin ++ '-' :: gap ++ (t ++ after)) = '-' :: rest ∧
      trim (withoutComment rest) = t := by
  refine ⟨trimEnd (gap ++ (t ++ after)), ?_, ?_⟩
  · rw [List.append_assoc, trim_blank_append hmargin, trim, trimStart, List.cons_append,
      List.dropWhile_cons_of_neg (by decide)]
    exact dropEndWhile_append_cons (by decide) [] _
  · have hclosed := isClosed_of_plain fun c hc => isPlain_of_isBlank (hgap c hc)
    rw [withoutComment_trimEnd, h.withoutComment_append hw hclosed, hrest, List.append_nil,
      trim_blank_append hgap, h.trim_eq hw]

/-- A word that is a key, in front of its colon. -/
theorem role_key {margin gap : Text} (hmargin : ∀ c ∈ margin, isBlank c = true)
    (hgap : ∀ c ∈ gap, isBlank c = true) (tail : Text) :
    Role.ofTrimmed (trim (margin ++ (t ++ (gap ++ ':' :: tail)))) =
      (KeyValue.readTail? tail.trimEnd).elim .unknown
        fun value? => .mappingKey t (trim (withoutComment (value?.getD []))) := by
  have htrim : trim (margin ++ (t ++ (gap ++ ':' :: tail))) = t ++ (gap ++ ':' :: tail.trimEnd) := by
    obtain ⟨c, rest, hcons, hc⟩ := h.exists_cons hw
    have hblank := KeyValue.isBlank_eq_false_of_isKeyChar (isKeyChar_of_isSpellingChar hc)
    have hcolon := dropEndWhile_append_cons (p := isBlank) (c := ':') (by decide) (t ++ gap) tail
    rw [trim_blank_append hmargin, trim, trimStart, hcons, List.cons_append,
      List.dropWhile_cons_of_neg (by simp [hblank]), ← List.cons_append, ← hcons, ← List.append_assoc]
    exact hcolon.trans (List.append_assoc _ _ _)
  obtain ⟨c, rest, hcons, hc⟩ := h.exists_cons hw
  rw [htrim, Role.ofTrimmed_keyed_gap hcons
    ⟨ne_of_class hc (by decide), ne_of_class hc (by decide)⟩
    (fun _ => h.isKeyChar_of_mem hw) hgap]

end Spelling

end Text

end ComposeLint
