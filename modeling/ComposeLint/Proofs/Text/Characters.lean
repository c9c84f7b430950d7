import ComposeLint.Line.Quote

/-! # Classes of characters

The classes that the readers test, as ranges of code points. -/

namespace ComposeLint.Text

theorem isLetter_iff {c : Char} : isLetter c = true ↔
    (97 ≤ c.toNat ∧ c.toNat ≤ 122) ∨ (65 ≤ c.toNat ∧ c.toNat ≤ 90) := by
  simp only [isLetter, Bool.or_eq_true, Bool.and_eq_true, decide_eq_true_eq]
  rfl

theorem isBlank_eq_false_of_isLetter {c : Char} (h : isLetter c = true) : isBlank c = false := by
  rw [isLetter_iff] at h
  simp only [isBlank, Bool.or_eq_false_iff, Bool.and_eq_false_iff, decide_eq_false_iff_not,
    beq_eq_false_iff_ne]
  omega

/-- A class tells what is in it from what is not. -/
theorem ne_of_class {p : Char → Bool} {c d : Char} (hc : p c = true) (hd : p d = false) :
    c ≠ d := by
  rintro rfl
  rw [hc] at hd
  cases hd

theorem not_mem_of_all {p : Char → Bool} {c : Char} {t : Text} (h : t.all p = true)
    (hc : p c = false) : c ∉ t :=
  fun hmem => ne_of_class (List.all_eq_true.mp h c hmem) hc rfl

theorem ne_of_isLetter {c d : Char} (hc : isLetter c = true) (hd : isLetter d = false) : c ≠ d :=
  ne_of_class hc hd

theorem isBlank_of_isSpaceOrTab {c : Char} (h : isSpaceOrTab c = true) : isBlank c = true := by
  rcases (by simpa [isSpaceOrTab] using h : c = ' ' ∨ c = '\t') with rfl | rfl <;> decide

theorem isSpaceOrTab_eq_false_of_isBlank {c : Char} (h : isBlank c = false) :
    isSpaceOrTab c = false := by
  rw [Bool.eq_false_iff]
  intro hspace
  rw [isBlank_of_isSpaceOrTab hspace] at h
  cases h

/-! ## Bare words -/

/-- Letters, figures and the signs of names and paths. -/
def isBareChar (c : Char) : Bool := isLetter c || isFigure c || "_./-".toList.contains c

/-- Words, and the signs that make pairs of them. -/
def isTokenChar (c : Char) : Bool := isBareChar c || c == ':' || c == '='

/-- Tokens, and the signs that make a list of them. -/
def isValueChar (c : Char) : Bool := isTokenChar c || "[], ".toList.contains c

theorem isFigure_iff {c : Char} : isFigure c = true ↔ 48 ≤ c.toNat ∧ c.toNat ≤ 57 := by
  simp only [isFigure, Bool.and_eq_true, decide_eq_true_eq]
  rfl

theorem isTokenChar_of_isBareChar {c : Char} (h : isBareChar c = true) : isTokenChar c = true := by
  simp [isTokenChar, h]

theorem isValueChar_of_isTokenChar {c : Char} (h : isTokenChar c = true) :
    isValueChar c = true := by
  simp [isValueChar, h]

/-- All of them are printed in one range of code points. -/
theorem toNat_of_isTokenChar {c : Char} (h : isTokenChar c = true) :
    45 ≤ c.toNat ∧ c.toNat ≤ 122 := by
  have hsigns : "_./-:=".toList.all (fun d => 45 ≤ d.toNat && d.toNat ≤ 122) = true := by decide
  by_cases hc : isLetter c = true ∨ isFigure c = true
  · rw [isLetter_iff, isFigure_iff] at hc
    omega
  · have hmem : c ∈ "_./-:=".toList := by
      simpa [isTokenChar, isBareChar, not_or.mp hc, or_assoc] using h
    simpa using List.all_eq_true.mp hsigns c hmem

theorem isBlank_eq_false_of_isTokenChar {c : Char} (h : isTokenChar c = true) :
    isBlank c = false := by
  obtain ⟨hlow, hhigh⟩ := toNat_of_isTokenChar h
  simp only [isBlank, Bool.or_eq_false_iff, Bool.and_eq_false_iff, decide_eq_false_iff_not,
    beq_eq_false_iff_ne]
  omega

end ComposeLint.Text
