import ComposeLint.Check.LineForm
import ComposeLint.Check.Structure
import ComposeLint.Proofs.Document.Blocks
import ComposeLint.Proofs.Document.Lines
import ComposeLint.Proofs.Line.Reading

/-! # What the checks look up is there

A column is the place of the first colon of a line, and a block is cut at the place of its header.
Both are searched for, and neither search can fail: the key that a column is given for stands before
a colon, and a header is one of the lines, where no two lines have one number. -/

namespace ComposeLint

namespace Check

theorem isIdentifierChar_of_mem {t : Text} (h : isIdentifier t = true) {c : Char} (hc : c ∈ t) :
    isIdentifierChar c = true := by
  cases t with
  | nil => cases hc
  | cons d rest =>
    simp only [isIdentifier, Bool.and_eq_true, List.all_eq_true] at h
    rcases List.mem_cons.mp hc with rfl | hc
    · simp [isIdentifierChar, h.1]
    · exact h.2 c hc

/-- A glued key is all that its text has before the colon, and no blank follows the colon. -/
theorem exists_of_gluedKey? {t key : Text} (h : gluedKey? t = some key) :
    isIdentifier key = true ∧ ∃ c rest, t = key ++ ':' :: c :: rest ∧ Text.isBlank c = false := by
  unfold gluedKey? at h
  dsimp only at h
  split at h
  · next c rest hdrop =>
    split at h
    · next hkey =>
      obtain rfl := Option.some.inj h
      rw [Bool.and_eq_true, Bool.not_eq_true'] at hkey
      exact ⟨hkey.1, c, rest, by rw [← hdrop, List.takeWhile_append_dropWhile], hkey.2⟩
    · cases h
  · cases h

/-- In its line only blanks stand before a glued key, so the first colon is the one after it. -/
theorem line_of_gluedKey? {l : Line} {key : Text}
    (h : gluedKey? l.trimmed.withoutComment = some key) :
    ∃ margin c rest, l.raw = margin ++ key ++ ':' :: c :: rest ∧
      (∀ d ∈ margin, Text.isBlank d = true) ∧ Text.isBlank c = false ∧
      colonColumn l.raw = margin.length + key.length + 1 := by
  obtain ⟨hkey, c, rest, htext, hc⟩ := exists_of_gluedKey? h
  obtain ⟨tail, htail⟩ : l.trimmed.withoutComment <+: l.raw.dropWhile Text.isBlank :=
    (Text.isPrefix_withoutComment _).trans (List.rdropWhile_prefix Text.isBlank _)
  let margin := l.raw.takeWhile Text.isBlank
  have hraw : l.raw = margin ++ key ++ ':' :: c :: (rest ++ tail) := by
    conv_lhs => rw [← List.takeWhile_append_dropWhile (p := Text.isBlank) (l := l.raw), ← htail,
      htext]
    simp [margin]
  have hfresh : ':' ∉ margin ++ key := by
    rw [List.mem_append, not_or]
    exact ⟨fun hc => absurd (List.mem_takeWhile_imp hc) (by decide),
      fun hc => absurd (isIdentifierChar_of_mem hkey hc) (by decide)⟩
  refine ⟨margin, c, rest ++ tail, hraw, fun d hd => List.mem_takeWhile_imp hd, hc, ?_⟩
  rw [colonColumn, hraw, List.idxOf_append, if_neg hfresh, List.idxOf_cons_self, List.length_append]
  simp

theorem colonColumn_of_gluedKey? {l : Line} {key : Text}
    (h : gluedKey? l.trimmed.withoutComment = some key) :
    ∃ before after, l.raw = before ++ key ++ ':' :: after ∧
      colonColumn l.raw = before.length + key.length + 1 := by
  obtain ⟨margin, c, rest, hraw, -, -, hcolumn⟩ := line_of_gluedKey? h
  exact ⟨margin, c :: rest, hraw, hcolumn⟩

theorem colon_mem_raw {l : Line} {key : Text}
    (h : gluedKey? l.trimmed.withoutComment = some key) : ':' ∈ l.raw := by
  obtain ⟨before, after, hraw, -⟩ := colonColumn_of_gluedKey? h
  simp [hraw]

end Check

namespace Block

theorem at?_append (before : List Line) (header : Line) (following : List Line) :
    at? (before ++ header :: following) before.length (before ++ header :: following).length =
      some ⟨header, owned header following⟩ := by
  have hbelow : ((before ++ header :: following).take (before ++ header :: following).length).drop
      (before.length + 1) = following := by
    rw [List.take_length, List.append_cons, List.drop_left' (by simp)]
  unfold at?
  rw [List.getElem?_append_right (Nat.le_refl _), Nat.sub_self, List.getElem?_cons_zero, hbelow]
  simp

/-- A block is found again by searching for its header among the lines that it was cut from. -/
theorem at?_idxOf_header {opens : Line → Bool} {lines : List Line} {b : Block}
    (hlines : lines.Pairwise fun l m => l.number < m.number)
    (hb : b ∈ blocksAt opens owned lines) :
    at? lines (lines.idxOf b.header) lines.length = some b := by
  obtain ⟨before, following, rfl, -, hbody⟩ := exists_of_mem_blocksAt hb
  have hfresh : b.header ∉ before := fun hmem =>
    Int.lt_irrefl _ ((List.pairwise_append.mp hlines).2.2 _ hmem _ List.mem_cons_self)
  have hindex : (before ++ b.header :: following).idxOf b.header = before.length := by
    rw [List.idxOf_append, if_neg hfresh, List.idxOf_cons_self, Nat.zero_add]
  rw [hindex, at?_append, ← hbody]

end Block

namespace Document

/-- Whatever the checks search for in a document is there. -/
structure LookupsSucceed (doc : Document) : Prop where
  colon : ∀ l ∈ doc, ∀ key, Check.gluedKey? l.trimmed.withoutComment = some key → ':' ∈ l.raw
  placed : ∀ b ∈ Block.blocksAt Check.isIndentedKey Block.owned doc,
    Block.at? doc (doc.idxOf b.header) doc.length = some b
  child : ∀ service ∈ doc.blocks .service, ∀ child ∈ service.childBlocks,
    Block.at? service.body (service.body.idxOf child.header) service.body.length = some child

theorem lookupsSucceed (text : Text) : (ofText text).LookupsSucceed where
  colon _ _ _ h := Check.colon_mem_raw h
  placed _ hb := Block.at?_idxOf_header (pairwise_number text) hb
  child _ hservice _ hchild :=
    Block.at?_idxOf_header
      ((pairwise_number text).sublist (isIn_of_mem_blocks hservice).body_sublist) hchild

end Document

end ComposeLint
