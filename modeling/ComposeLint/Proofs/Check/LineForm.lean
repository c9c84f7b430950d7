import ComposeLint.Proofs.RepeatedKeys
import ComposeLint.Validation

/-! # Which part of the line check reports which codes

The check of single lines is put together of five parts, and each of them has codes of its own. So
an issue with a code about colons is one of a line of no known role
(`Check.mem_colonIssues_of_mem_lineIssues`), and an issue with the code of a repeated key is one of
the scan over all lines (`Check.code_ne_duplicateKey_of_mem_lineIssues`). -/

namespace ComposeLint.Check

/-- The codes of a line that have nothing to do with its colon. -/
def codesBesideColon : List Code :=
  [.yamlMixedIndentation, .yamlNoTabs, .yamlIndentation, .yamlUnbalancedQuotes,
    .yamlMultipleSections, .yamlListItemSpacing]

variable {l : Line} {i : Issue}

/-! ## The parts of the check -/

theorem code_of_marginFinding? {f : Finding} (h : marginFinding? l = some f) :
    f.code ∈ codesBesideColon := by
  unfold marginFinding? at h
  split at h
  · obtain rfl := Option.some.inj h
    decide
  · split at h
    · obtain rfl := Option.some.inj h
      decide
    · split at h
      · obtain rfl := Option.some.inj h
        decide
      · cases h

theorem code_of_mem_quoteIssues (h : i ∈ quoteIssues l) : i.code = .yamlUnbalancedQuotes := by
  obtain ⟨quote, -, rfl⟩ := List.mem_map.mp h
  rfl

theorem code_of_mem_sectionIssues (h : i ∈ sectionIssues l) : i.code = .yamlMultipleSections := by
  unfold sectionIssues at h
  dsimp only at h
  split at h
  · rw [List.mem_singleton.mp h]
    rfl
  · cases h

theorem code_of_mem_dashIssues (h : i ∈ dashIssues l) : i.code = .yamlListItemSpacing := by
  unfold dashIssues at h
  dsimp only at h
  split at h
  · split at h
    · cases h
    · rw [List.mem_singleton.mp h]
      rfl
  · cases h

/-- What the check of colons finds: a glued value, or a name without a colon. -/
theorem cases_of_mem_colonIssues (h : i ∈ colonIssues l) :
    (∃ key, gluedKey? l.trimmed.withoutComment = some key ∧
      i = (Finding.gluedColon key).issue
        { line? := some l.number, column? := some (colonColumn l.raw) }) ∨
    isIdentifier l.trimmed.withoutComment = true ∧
      i = (Finding.missingColon l.trimmed.withoutComment).onLine l.number := by
  unfold colonIssues at h
  dsimp only at h
  split at h
  · next key hkey =>
    exact .inl ⟨key, (Option.filter_eq_some_iff.mp hkey).1, List.mem_singleton.mp h⟩
  · split at h
    · next hidentifier => exact .inr ⟨hidentifier, List.mem_singleton.mp h⟩
    · cases h

/-! ## The check of a line -/

/-- Every issue of a line has nothing to do with its colon, or is found where the line is neither
scalar text nor of a known role. -/
theorem cases_of_mem_lineIssues (h : i ∈ lineIssues l) : i.code ∈ codesBesideColon ∨
    l.inScalar = false ∧ l.role = .unknown ∧ i ∈ colonIssues l := by
  unfold lineIssues at h
  split at h
  · cases h
  rcases List.mem_append.mp h with h | h
  · obtain ⟨f, hf, rfl⟩ := List.mem_map.mp h
    exact .inl (code_of_marginFinding? (Option.mem_toList.mp hf))
  split at h
  · cases h
  next hread =>
  have hfree : l.inScalar = false := by
    rw [Bool.or_eq_true, not_or] at hread
    simpa using hread.2
  unfold contentIssues at h
  rcases List.mem_append.mp h with h | h
  · rcases List.mem_append.mp h with h | h
    · rw [code_of_mem_quoteIssues h]
      exact .inl (by decide)
    · rw [code_of_mem_sectionIssues h]
      exact .inl (by decide)
  · split at h
    · rw [code_of_mem_dashIssues h]
      exact .inl (by decide)
    · next hrole => exact .inr ⟨hfree, hrole, h⟩
    · cases h

/-- The two codes about colons. -/
def IsAboutColon (code : Code) : Prop := code = .yamlColonSpacing ∨ code = .yamlMissingColon

theorem mem_colonIssues_of_mem_lineIssues (h : i ∈ lineIssues l) (hcode : IsAboutColon i.code) :
    l.inScalar = false ∧ l.role = .unknown ∧ i ∈ colonIssues l := by
  refine (cases_of_mem_lineIssues h).resolve_left fun hbeside => ?_
  rcases hcode with hcode | hcode <;> rw [hcode] at hbeside <;> exact absurd hbeside (by decide)

theorem code_ne_duplicateKey_of_mem_lineIssues (h : i ∈ lineIssues l) :
    i.code ≠ .yamlDuplicateKey := by
  intro hcode
  rcases cases_of_mem_lineIssues h with hbeside | ⟨-, -, hcolon⟩
  · rw [hcode] at hbeside
    exact absurd hbeside (by decide)
  · rcases cases_of_mem_colonIssues hcolon with ⟨key, -, rfl⟩ | ⟨-, rfl⟩ <;> cases hcode

/-! ## The check of all lines -/

theorem mem_syntaxIssues_iff {doc : Document} :
    i ∈ syntaxIssues doc ↔ (∃ l ∈ doc, i ∈ lineIssues l) ∨ i ∈ duplicateKeyIssues doc := by
  rw [syntaxIssues, List.mem_append, List.mem_flatMap]

variable {text : Text}

theorem exists_repeats (text : Text) : ∃ repeats : List KeyRepeat,
    (Document.ofText text).ListsRepeats (Document.ofText text).length repeats ∧
      duplicateKeyIssues (Document.ofText text) = repeats.map KeyRepeat.issue := by
  have hnumbered : (Document.ofText text).IsNumbered := fun _ _ => Document.number_of_getElem?
  obtain ⟨repeats, hrepeats, hissues⟩ := Document.exists_listsRepeats hnumbered _ le_rfl
  rw [List.take_length] at hissues
  exact ⟨repeats, hrepeats, hissues⟩

theorem code_of_mem_duplicateKeyIssues (h : i ∈ duplicateKeyIssues (Document.ofText text)) :
    i.code = .yamlDuplicateKey := by
  obtain ⟨repeats, -, hissues⟩ := exists_repeats text
  rw [hissues] at h
  obtain ⟨r, -, rfl⟩ := List.mem_map.mp h
  rfl

end ComposeLint.Check
