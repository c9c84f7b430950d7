import ComposeLint.Proofs.Text.Ends
import Mathlib.Data.List.TakeWhile

/-! # Cuts at a character

A text that is cut at the first occurrence of a character is put together again from both sides,
and no other text is cut into the same sides. -/

namespace ComposeLint.Text

variable {a b t : Text} {c : Char}

theorem cutAt?_append (h : c ∉ a) : cutAt? c (a ++ c :: b) = some (a, b) := by
  have hall : ∀ d ∈ a, (d != c) = true := by
    intro d hd
    rw [bne_iff_ne]
    rintro rfl
    exact h hd
  rw [cutAt?, List.dropWhile_append_of_pos hall, List.takeWhile_append_of_pos hall]
  simp

theorem cutAt?_eq_none (h : c ∉ t) : cutAt? c t = none := by
  have hdrop : t.dropWhile (· != c) = [] := List.dropWhile_eq_nil_iff.mpr fun d hd => by
    rw [bne_iff_ne]
    rintro rfl
    exact h hd
  rw [cutAt?, hdrop]

theorem eq_of_cutAt? (h : cutAt? c t = some (a, b)) : t = a ++ c :: b := by
  have hcut := List.takeWhile_append_dropWhile (p := (· != c)) (l := t)
  have hhead := List.head?_dropWhile_not (· != c) t
  unfold cutAt? at h
  cases hdrop : t.dropWhile (· != c) with
  | nil => simp [hdrop] at h
  | cons d rest =>
    simp only [hdrop, Option.some.injEq, Prod.mk.injEq] at h
    obtain ⟨rfl, rfl⟩ := h
    rw [hdrop] at hcut hhead
    obtain rfl : d = c := by simpa using hhead
    exact hcut.symm

/-- The three parts of a text that is cut at every occurrence of a character, if there are three. -/
theorem eq_of_splitOn_three {d : Text} (h : t.splitOn c = [a, b, d]) :
    t = a ++ c :: (b ++ c :: d) := by
  have hjoin : List.intercalate [c] (t.splitOn c) = t := List.intercalate_splitOn c
  rw [h] at hjoin
  simpa [List.intercalate] using hjoin.symm

theorem eq_of_splitOn_two (h : t.splitOn c = [a, b]) : t = a ++ c :: b := by
  have hjoin : List.intercalate [c] (t.splitOn c) = t := List.intercalate_splitOn c
  rw [h] at hjoin
  simpa [List.intercalate] using hjoin.symm

/-- The first two parts of a text that is cut at least once, and what follows them. -/
theorem exists_of_splitOn_cons_cons {parts : List Text} (h : t.splitOn c = a :: b :: parts) :
    ∃ rest, t = a ++ c :: (b ++ rest) ∧ (rest = [] ∨ rest.head? = some c) := by
  have hjoin : List.intercalate [c] (t.splitOn c) = t := List.intercalate_splitOn c
  rw [h, List.intercalate_cons_cons, List.append_assoc, List.singleton_append] at hjoin
  cases parts with
  | nil => exact ⟨[], by rw [← hjoin]; simp [List.intercalate], .inl rfl⟩
  | cons d parts =>
    rw [List.intercalate_cons_cons] at hjoin
    exact ⟨c :: List.intercalate [c] (d :: parts), by rw [← hjoin]; simp, .inr rfl⟩

theorem splitOn_one (h : c ∉ t) : t.splitOn c = [t] := by
  have hparts : ∀ part ∈ [t], c ∉ part := by simp [h]
  simpa [List.intercalate] using List.splitOn_intercalate c hparts (by simp)

/-- The first part of a text, and the parts of what follows it. -/
theorem splitOn_append_cons (h : c ∉ a) (b : Text) :
    (a ++ c :: b).splitOn c = a :: b.splitOn c := by
  simp only [List.splitOn_eq_splitOnP]
  refine List.splitOnP_append_cons_of_forall_mem (fun d hd => ?_) c (by simp) b
  rw [beq_eq_false_iff_ne]
  rintro rfl
  exact h hd

theorem splitOn_two (ha : c ∉ a) (hb : c ∉ b) : (a ++ c :: b).splitOn c = [a, b] := by
  rw [splitOn_append_cons ha, splitOn_one hb]

theorem splitOn_three {d : Text} (ha : c ∉ a) (hb : c ∉ b) (hd : c ∉ d) :
    (a ++ c :: (b ++ c :: d)).splitOn c = [a, b, d] := by
  rw [splitOn_append_cons ha, splitOn_two hb hd]

/-! ## Lists between commas -/

/-- What stands between the commas of a text, but for blanks and empty places. -/
def pieces (t : Text) : List Text := ((t.splitOn ',').map trim).filter (!·.isEmpty)

theorem pieces_append_cons (a b : Text) : pieces (a ++ ',' :: b) = pieces a ++ pieces b := by
  rw [pieces, List.splitOn_append_cons_self, List.map_append, List.filter_append, pieces, pieces]

theorem pieces_space_cons (t : Text) : pieces (' ' :: t) = pieces t := by
  have hspace (part : Text) : trim (' ' :: part) = part.trim :=
    trim_blank_append (List.all_eq_true.mp (by decide : [' '].all isBlank = true)) part
  obtain ⟨first, others, hparts⟩ := List.exists_cons_of_ne_nil (List.splitOn_ne_nil ',' t)
  rw [pieces, List.splitOn_cons_eq_if_modifyHead, if_neg (by decide), hparts,
    List.modifyHead_cons, List.map_cons, hspace, pieces, hparts, List.map_cons]

/-- A text without commas is one piece. -/
theorem pieces_one (h : ',' ∉ t) (hne : t.trim ≠ []) : t.pieces = [t.trim] := by
  rw [pieces, splitOn_one h, List.map_singleton, List.filter_cons_of_pos (by simp [hne]),
    List.filter_nil]

/-- Texts that are listed with commas between them are cut one by one. -/
theorem pieces_joinWith (ts : List Text) : pieces (joinWith ", " ts) = ts.flatMap pieces := by
  induction ts with
  | nil => decide
  | cons first others ih =>
    cases others with
    | nil => simp [joinWith]
    | cons second others =>
      have hjoin : joinWith ", " (first :: second :: others) =
          first ++ ',' :: ' ' :: joinWith ", " (second :: others) := by
        simp [joinWith, List.intercalate_cons_cons]
      rw [List.flatMap_cons, ← ih, hjoin, pieces_append_cons, pieces_space_cons]

end ComposeLint.Text
