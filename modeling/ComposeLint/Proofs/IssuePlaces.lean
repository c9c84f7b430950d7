import ComposeLint.Proofs.Check.Codes
import ComposeLint.Server.Encoding

/-! # Every issue points into its document

Each issue but that of a failed pass words a finding that stands in the document
(`Pass.exists_origin`). The lines of a document are numbered from one in a row, so a line of it is
in range, and the last line of a block comes no earlier than its header. A column is that of the
first colon, which ends the key that the message names. -/

namespace ComposeLint

/-- How an issue points into a document. -/
structure Issue.PointsInto (doc : Document) (i : Issue) : Prop where
  line : i.line? = none ∧ i.code = .validatorCheckFailed ∨
    ∃ n, i.line? = some n ∧ 1 ≤ n ∧ n ≤ doc.length
  range : ∀ last, i.endLine? = some last →
    (i.code = .composeMisplacedNetworks ∨ i.code = .composeMisplacedVolumes) ∧
      ∃ first, i.line? = some first ∧ i.startLine? = some first ∧ first ≤ last ∧
        last ≤ doc.length
  column : ∀ c, i.column? = some c → i.code = .yamlColonSpacing ∧
    ∃ (index : Nat) (l : Line) (key before after : Text),
      i.line? = some (index + 1) ∧ doc[index]? = some l ∧
        i.message = "Missing space after colon in \"".toList ++ key ++ ":\".".toList ∧
        key ≠ [] ∧ l.raw = before ++ key ++ ':' :: after ∧
        c = before.length + key.length + 1
  sent : ∀ members, i.toJson = .object members →
    Json.get? "start_column".toList members = Json.get? "end_column".toList members

namespace Document

variable {text : Text}

/-- A block ends at a line of the document, and not before its header. -/
theorem lastNumber_of_isIn {b : Block} (h : b.IsIn (ofText text)) :
    let last := (b.body.getLast?.map Line.number).getD b.header.number
    b.header.number ≤ last ∧ last ≤ (ofText text).length := by
  intro last
  cases hlast : b.body.getLast? with
  | none =>
    have hsame : last = b.header.number := by simp [last, hlast]
    rw [hsame]
    exact ⟨Int.le_refl _, (number_of_mem h.header_mem).2⟩
  | some m =>
    have hm : m ∈ b.body := List.mem_of_getLast? hlast
    have hsame : last = m.number := by simp [last, hlast]
    have hafter : b.header.number < m.number :=
      (List.pairwise_cons.mp ((pairwise_number text).sublist h)).1 m hm
    rw [hsame]
    exact ⟨Int.le_of_lt hafter, (number_of_mem (h.body_sublist.mem hm)).2⟩

end Document

namespace Issue

theorem get?_columns {i : Issue} {members : List (Text × Json)} (h : i.toJson = .object members) :
    Json.get? "start_column".toList members = Json.get? "end_column".toList members := by
  obtain rfl := Json.object.inj h
  rfl

variable {text : Text}

/-- An issue that says no more than a line of the document. -/
theorem pointsInto_onLine (f : Finding) {n : Int}
    (h : 1 ≤ n ∧ n ≤ (Document.ofText text).length) :
    (f.onLine n).PointsInto (Document.ofText text) where
  line := .inr ⟨n, rfl, h⟩
  range last hlast := by cases hlast
  column c hc := by cases hc
  sent _ := get?_columns

theorem pointsInto_failure (p : Pass) : p.failure.PointsInto (Document.ofText text) where
  line := .inl ⟨rfl, rfl⟩
  range last hlast := by cases hlast
  column c hc := by cases hc
  sent _ := get?_columns

theorem pointsInto_gluedColon {l : Line} {key : Text} (hl : l ∈ Document.ofText text)
    (hkey : Check.gluedKey? l.trimmed.withoutComment = some key) :
    ((Finding.gluedColon key).issue
      { line? := some l.number, column? := some (Check.colonColumn l.raw) }).PointsInto
        (Document.ofText text) where
  line := .inr ⟨l.number, rfl, Document.number_of_mem hl⟩
  range last hlast := by cases hlast
  column c hc := by
    obtain rfl := Option.some.inj hc
    obtain ⟨before, after, hraw, hcolumn⟩ := Check.colonColumn_of_gluedKey? hkey
    obtain ⟨index, hindex⟩ := List.mem_iff_getElem?.mp hl
    have hne : key ≠ [] := by
      rintro rfl
      exact Bool.false_ne_true (Check.exists_of_gluedKey? hkey).1
    refine ⟨rfl, index, l, key, before, after, ?_, hindex, ?_, hne, hraw, hcolumn⟩
    · exact congrArg some (Document.number_of_getElem? hindex)
    · rfl
  sent _ := get?_columns

theorem pointsInto_range {f : Finding} {b : Block}
    (hf : f = .misplacedNetworks ∨ f = .misplacedVolumes) (hb : b.IsIn (Document.ofText text)) :
    (f.issue { line? := some b.header.number
               endLine? := some ((b.body.getLast?.map Line.number).getD b.header.number) }).PointsInto
        (Document.ofText text) where
  line := .inr ⟨b.header.number, rfl, Document.number_of_mem hb.header_mem⟩
  range last hlast := by
    obtain rfl := Option.some.inj hlast
    refine ⟨?_, b.header.number, rfl, rfl, Document.lastNumber_of_isIn hb⟩
    rcases hf with rfl | rfl
    · exact .inl rfl
    · exact .inr rfl
  column c hc := by cases hc
  sent _ := get?_columns

end Issue

theorem Finding.StandsIn.pointsInto {text : Text} {f : Finding} {place : Place}
    (h : f.StandsIn (Document.ofText text) place) :
    (f.issue place).PointsInto (Document.ofText text) := by
  cases h with
  | line _ hl => exact Issue.pointsInto_onLine f (Document.number_of_mem hl)
  | counted _ hn => exact Issue.pointsInto_onLine f (hn (Document.ofText_ne_nil text))
  | colon hl hkey => exact Issue.pointsInto_gluedColon hl hkey
  | range hf hb => exact Issue.pointsInto_range hf hb

/-- **Every issue points into its document.** Of the issues in the report on a text only that of a
failed pass has no line; all others have one of the lines of the text. A range of lines is given for
misplaced networks and volumes only: it starts at the line of the issue and ends there or further
down, within the text. A column is given for a missing blank after a colon only: there the line has
the colon, right after the key that the message names. As sent, it is the first and the last
column. -/
theorem issues_point_into_document (text : Text) :
    (Document.ofText text).length = (text.splitOn '\n').length ∧
      ∀ i ∈ (validate text).issues, i.PointsInto (Document.ofText text) := by
  refine ⟨Document.length_ofText text, fun i hi => ?_⟩
  obtain ⟨p, hp⟩ := mem_issues_validate.mp hi
  rw [Pass.contribution_eq] at hp
  split at hp
  · next issues hok =>
    obtain ⟨origin, -, f, place, -, hplace, rfl⟩ := Pass.exists_origin hok hp
    exact hplace.pointsInto
  · obtain rfl := List.mem_singleton.mp hp
    exact Issue.pointsInto_failure p

/-- The margin counts, and a colon in the value is not the one that is meant. -/
example : (Check.syntaxIssues (Document.ofText "a:\n  key:b:c".toList)).map Issue.place =
    [{ line? := some 2, column? := some 6 }] := by decide

end ComposeLint
