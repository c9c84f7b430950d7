import ComposeLint.Number.Integer
import ComposeLint.Proofs.Text.Characters
import ComposeLint.Proofs.Text.Cuts
import Mathlib.Data.Nat.Digits.Defs

/-! # Plain numerals

A run of digits has no blank, sign, base mark or underscore in it, so as an integer literal it is
read whole: it denotes the number of the run unless it is too long. The number of a run is that of
its digits by their places (`Text.numberOf_eq_ofDigits`). -/

namespace ComposeLint

namespace Text

variable {c : Char}

/-- A digit stands in the row of its script, as far from the zero as its value says. -/
theorem exists_of_isDigit (h : isDigit c = true) : ∃ first ∈ zeros, first ≤ c.toNat ∧
    c.toNat < first + 10 ∧ digitValue? c = some (c.toNat - first) := by
  obtain ⟨first, hfirst⟩ : ∃ first, zeros.find? (fun first =>
      first ≤ c.toNat && c.toNat < first + 10) = some first := by
    simpa [isDigit, digitValue?, Option.isSome_iff_exists] using h
  have hrow := List.find?_some hfirst
  simp only [Bool.and_eq_true, decide_eq_true_eq] at hrow
  exact ⟨first, List.mem_of_find?_eq_some hfirst, hrow.1, hrow.2, by rw [digitValue?, hfirst]; rfl⟩

/-- No script keeps its digits among the blanks. -/
theorem isBlank_eq_false_of_isDigit (h : isDigit c = true) : isBlank c = false := by
  have hrows : zeros.all (fun first =>
      (List.range 10).all fun value => !isBlank (Char.ofNat (first + value))) = true := by
    decide +kernel
  obtain ⟨first, hmem, hlow, hhigh, -⟩ := exists_of_isDigit h
  have hrow := List.all_eq_true.mp hrows first hmem
  have hvalue : c.toNat - first < 10 := by omega
  have hclear := List.all_eq_true.mp hrow (c.toNat - first) (List.mem_range.mpr hvalue)
  rw [Nat.add_sub_cancel' hlow, Char.ofNat_toNat] at hclear
  simpa using hclear

theorem digitIn?_ten_isSome (h : isDigit c = true) : (digitIn? 10 c).isSome = true := by
  obtain ⟨first, -, hlow, hhigh, hvalue⟩ := exists_of_isDigit h
  have hten : c.toNat - first < 10 := by omega
  simp [digitIn?, hvalue, hten]

theorem numberOf_eq_ofDigits (digits : Text) : numberOf digits =
    Nat.ofDigits 10 (digits.reverse.map fun c => (digitValue? c).getD 0) := by
  rw [Nat.ofDigits_eq_foldr, List.foldr_map, List.foldr_reverse, numberOf]
  simp only [Nat.cast_id, Nat.add_comm]

theorem getD_digitValue?_lt (c : Char) : (digitValue? c).getD 0 < 10 := by
  cases hc : isDigit c with
  | true =>
    obtain ⟨first, -, hlow, hhigh, hvalue⟩ := exists_of_isDigit hc
    rw [hvalue, Option.getD_some]
    omega
  | false =>
    rw [Option.isSome_eq_false_iff.mp hc |> Option.isNone_iff_eq_none.mp]
    decide

/-- A run of digits denotes a number of no more digits. -/
theorem numberOf_lt (digits : Text) : numberOf digits < 10 ^ digits.length := by
  have hlength : digits.length =
      (digits.reverse.map fun c => (digitValue? c).getD 0).length := by simp
  rw [numberOf_eq_ofDigits, hlength]
  refine Nat.ofDigits_lt_base_pow_length (by decide) fun n hn => ?_
  obtain ⟨c, -, rfl⟩ := List.mem_map.mp hn
  exact getD_digitValue?_lt c

theorem splitSign_cons_of_isDigit (h : isDigit c = true) (rest : Text) :
    splitSign (c :: rest) = (false, c :: rest) := by
  unfold splitSign
  split
  · next heq => exact absurd (List.cons.inj heq).1 (ne_of_class h (by decide))
  · next heq => exact absurd (List.cons.inj heq).1 (ne_of_class h (by decide))
  · rfl

end Text

namespace Integer

theorem withoutBaseMark_ten (t : Text) : withoutBaseMark 10 t = t := by
  unfold withoutBaseMark
  split <;> simp [baseMark?]

theorem isWithin_mono {digits digits' : Nat} {n : Int} (hle : digits ≤ digits')
    (h : isWithin digits n = true) : isWithin digits' n = true :=
  isWithin_iff.mpr ((isWithin_iff.mp h).trans_le (Nat.pow_le_pow_right (by decide) hle))

/-- What has few enough digits to be evaluated has few enough to be written. -/
theorem isWritable_of_ofDigits {digits : Text} {n : Nat} (h : ofDigits digits = .ok n) :
    isWritable n = true := by
  unfold ofDigits at h
  split at h
  · cases h
  · next hlength =>
    obtain rfl := Except.ok.inj h
    exact isWithin_mono (Nat.not_lt.mp hlength) (isWithin_iff.mpr (Text.numberOf_lt digits))

/-- A run of digits as an integer literal. -/
theorem read_of_all_isDigit {digits : Text} (hne : digits ≠ [])
    (h : ∀ c ∈ digits, Text.isDigit c = true) :
    read digits = (ofDigits digits).map Int.ofNat := by
  have hunderscore : '_' ∉ digits := fun hmem => Text.ne_of_class (h _ hmem) (by decide) rfl
  have hnumeral : ∀ c ∈ digits, ((Text.digitIn? 10 c).isSome || c == '_') = true := fun c hc => by
    rw [Text.digitIn?_ten_isSome (h c hc), Bool.true_or]
  obtain ⟨c, rest, rfl⟩ := List.exists_cons_of_ne_nil hne
  have hc := h c List.mem_cons_self
  have hpadding : (c :: rest).dropWhile Text.isPadding = c :: rest :=
    List.dropWhile_cons_of_neg (by simp [Text.isPadding, Text.isBlank_eq_false_of_isDigit hc])
  have hrun := List.takeWhile_eq_self_iff.mpr hnumeral
  have htail := List.dropWhile_eq_nil_iff.mpr hnumeral
  have hfilter : (c :: rest).filter (· != '_') = c :: rest :=
    List.filter_eq_self.mpr fun d hd => by
      rw [bne_iff_ne]
      rintro rfl
      exact hunderscore hd
  unfold read readIn
  rw [hpadding, Text.splitSign_cons_of_isDigit hc]
  dsimp only
  rw [withoutBaseMark_ten, hrun, htail, Text.splitOn_one hunderscore, hfilter]
  cases ofDigits (c :: rest) <;> rfl

end Integer

end ComposeLint
