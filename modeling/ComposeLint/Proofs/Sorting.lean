import ComposeLint.Stack.Reader
import Mathlib.Data.Char
import Mathlib.Data.List.Lex
import Mathlib.Data.List.Sort
import Mathlib.Data.Prod.Lex

/-! # Sorting by lines

Readers of a field that may be written in several forms sort what they find, most of them by lines
alone. What is on lines that ascend is put back in this order, and what is in order already stays as
it is. The names of dependencies are compared as well, which changes the order within one line. -/

namespace ComposeLint

section Lines

variable {α β : Type} {place : β → Int}

/-- Values are on the lines of what they were read from. -/
theorem pairwise_filterMap_place {r : Int → Int → Prop} (value? : β → Option α) {found : List β}
    (h : found.Pairwise fun a b => r (place a) (place b)) :
    (found.filterMap fun e => (value? e).map (place e, ·)).Pairwise fun a b => r a.1 b.1 := by
  refine h.filterMap _ fun a b hab c hc d hd => ?_
  obtain ⟨-, -, rfl⟩ := Option.map_eq_some_iff.mp hc
  obtain ⟨-, -, rfl⟩ := Option.map_eq_some_iff.mp hd
  exact hab

theorem map_filterMap_place (value? : β → Option α) (found : List β) :
    (found.filterMap fun e => (value? e).map (place e, ·)).map (·.2) = found.filterMap value? := by
  rw [List.map_filterMap]
  simp [Function.comp_def]

theorem inLineOrder_eq {found : List β} {value : β → α}
    (h : found.Pairwise fun a b => place a ≤ place b) :
    inLineOrder (found.map fun e => (place e, value e)) = found.map value := by
  rw [inLineOrder, List.mergeSort_of_pairwise, List.map_map]
  · rfl
  · rw [List.pairwise_map]
    exact h.imp fun hle => decide_eq_true hle

theorem inLineOrder_filterMap {found : List β} (value? : β → Option α)
    (h : found.Pairwise fun a b => place a ≤ place b) :
    inLineOrder (found.filterMap fun e => (value? e).map (place e, ·)) =
      found.filterMap value? := by
  rw [inLineOrder, List.mergeSort_of_pairwise, map_filterMap_place]
  exact (pairwise_filterMap_place value? h).imp decide_eq_true

/-- Values on lines that ascend are put back in order by every sort that goes by lines first. -/
theorem mergeSort_eq_of_lines {le : Int × α → Int × α → Bool}
    (htrans : ∀ a b c, le a b = true → le b c = true → le a c = true)
    (htotal : ∀ a b, (le a b || le b a) = true) (hle : ∀ a b, le a b = true → a.1 ≤ b.1)
    {found ordered : List (Int × α)} (hperm : found.Perm ordered)
    (hordered : ordered.Pairwise fun a b => a.1 < b.1) : found.mergeSort le = ordered := by
  have hsorted := (List.pairwise_mergeSort htrans htotal found).imp (hle _ _)
  have hback := (List.mergeSort_perm found le).trans hperm
  have hapart : (found.mergeSort le).Pairwise fun a b => a.1 ≠ b.1 :=
    (hback.pairwise_iff Ne.symm).mpr (hordered.imp ne_of_lt)
  have hstrict := (hsorted.and hapart).imp fun h => lt_of_le_of_ne h.1 h.2
  exact hback.eq_of_pairwise (fun a b _ _ hab hba => absurd hab (lt_asymm hba)) hstrict hordered

theorem inLineOrder_eq_of_lines {found ordered : List (Int × α)} (hperm : found.Perm ordered)
    (hordered : ordered.Pairwise fun a b => a.1 < b.1) :
    inLineOrder found = ordered.map (·.2) := by
  rw [inLineOrder, mergeSort_eq_of_lines ?_ ?_ ?_ hperm hordered]
  · intro a b c hab hbc
    rw [decide_eq_true_eq] at hab hbc ⊢
    exact hab.trans hbc
  · intro a b
    rw [Bool.or_eq_true, decide_eq_true_eq, decide_eq_true_eq]
    exact le_total a.1 b.1
  · exact fun a b => of_decide_eq_true

end Lines

/-! ## Names on one line -/

theorem Text.atMost_iff {s t : Text} : s.atMost t = true ↔ s ≤ t := by
  rw [← not_lt]
  induction s generalizing t with
  | nil => simp [atMost]
  | cons a s ih =>
    cases t with
    | nil => simp [atMost]
    | cons b t =>
      rw [List.cons_lt_cons_iff, atMost, Bool.or_eq_true, Bool.and_eq_true, ih]
      rcases lt_trichotomy a b with h | rfl | h
      · simp [h, h.ne', not_lt_of_gt h]
      · simp
      · simp [h, h.ne', not_lt_of_gt h]

theorem pairwise_mergeSort_atMost (names : List Text) :
    (names.mergeSort Text.atMost).Pairwise fun s t => s.atMost t = true := by
  refine List.pairwise_mergeSort (fun s t u => ?_) (fun s t => ?_) names
  · simp only [Text.atMost_iff]
    exact le_trans
  · rw [Bool.or_eq_true, Text.atMost_iff, Text.atMost_iff]
    exact le_total s t

/-- Dependencies are compared by their lines and then by their names. -/
def dependencyLe (a b : Int × Text) : Bool := a.1 < b.1 || (a.1 == b.1 && a.2.atMost b.2)

theorem dependencyLe_iff {a b : Int × Text} : dependencyLe a b = true ↔ toLex a ≤ toLex b := by
  simp [dependencyLe, Prod.Lex.toLex_le_toLex, Text.atMost_iff]

theorem dependencyLe_trans (a b c : Int × Text) (hab : dependencyLe a b = true)
    (hbc : dependencyLe b c = true) : dependencyLe a c = true :=
  dependencyLe_iff.mpr ((dependencyLe_iff.mp hab).trans (dependencyLe_iff.mp hbc))

theorem dependencyLe_total (a b : Int × Text) : (dependencyLe a b || dependencyLe b a) = true := by
  rw [Bool.or_eq_true, dependencyLe_iff, dependencyLe_iff]
  exact le_total _ _

theorem dependencyLe_of_lt {a b : Int × Text} (h : a.1 < b.1) : dependencyLe a b = true := by
  simp [dependencyLe, h]

theorem line_le_of_dependencyLe (a b : Int × Text) (h : dependencyLe a b = true) : a.1 ≤ b.1 := by
  rcases Prod.Lex.toLex_le_toLex.mp (dependencyLe_iff.mp h) with h | h
  · exact h.le
  · exact h.1.le

/-- The order of names decides only between values of one line. -/
theorem mergeSort_of_lines {found : List (Int × Text)} (h : found.Pairwise fun a b => a.1 < b.1) :
    (found.mergeSort fun a b => a.1 < b.1 || (a.1 == b.1 && a.2.atMost b.2)) = found :=
  List.mergeSort_of_pairwise (h.imp dependencyLe_of_lt)

/-- The names on a first line are sorted among themselves, the lines below it stay. -/
theorem mergeSort_dependencyLe {n : Int} (names : List Text) {below : List (Int × Text)}
    (hbelow : below.Pairwise fun a b => a.1 < b.1) (hlater : ∀ e ∈ below, n < e.1) :
    (names.map (n, ·) ++ below).mergeSort dependencyLe =
      (names.mergeSort Text.atMost).map (n, ·) ++ below := by
  have hordered : ((names.mergeSort Text.atMost).map (n, ·) ++ below).Pairwise
      fun a b => dependencyLe a b = true := by
    refine List.pairwise_append.mpr ⟨?_, hbelow.imp dependencyLe_of_lt, ?_⟩
    · rw [List.pairwise_map]
      refine (pairwise_mergeSort_atMost names).imp fun hst => ?_
      simp [dependencyLe, hst]
    · intro a ha b hb
      obtain ⟨name, -, rfl⟩ := List.mem_map.mp ha
      exact dependencyLe_of_lt (hlater b hb)
  have hperm : ((names.map (n, ·) ++ below).mergeSort dependencyLe).Perm
      ((names.mergeSort Text.atMost).map (n, ·) ++ below) :=
    (List.mergeSort_perm _ _).trans
      (((List.mergeSort_perm names Text.atMost).map _).symm.append_right below)
  refine hperm.eq_of_pairwise (fun a b _ _ hab hba => ?_)
    (List.pairwise_mergeSort dependencyLe_trans dependencyLe_total _) hordered
  exact toLex.injective (le_antisymm (dependencyLe_iff.mp hab) (dependencyLe_iff.mp hba))

end ComposeLint
