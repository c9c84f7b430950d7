import ComposeLint.Proofs.Moved.Document

/-! # The lines of a document

A document is a numbered run of texts that has been marked once, from the top. What the marking
knows of the lines above is the indent of the open scalar alone (`holderAfter`), so a document can
be cut anywhere and each part be marked for itself (`markScalars_append`). -/

namespace ComposeLint

open Line (moved)

theorem Line.trimmed_ofText (n : Int) (t : Text) : (Line.ofText n t).trimmed = t.trim := by
  rw [trimmed, ofText, ← Text.trim_trimEnd, Text.trimEnd_dropEndWhile_carriageReturn,
    Text.trim_trimEnd]

namespace Document

/-- Texts as unmarked lines, numbered in a row. -/
def numberFrom (n : Int) : List Text → List Line
  | [] => []
  | t :: rest => Line.ofText n t :: numberFrom (n + 1) rest

theorem mapIdx_ofText (texts : List Text) : ∀ n : Int,
    (texts.mapIdx fun i t => Line.ofText (i + n) t) = numberFrom n texts := by
  induction texts with
  | nil => exact fun _ => rfl
  | cons t rest ih =>
    intro n
    rw [List.mapIdx_cons, numberFrom, ← ih (n + 1)]
    simp only [Int.natCast_add, Int.natCast_zero, Int.zero_add, Int.natCast_one, Int.add_assoc,
      Int.add_comm 1 n]

theorem ofText_eq (text : Text) :
    ofText text = markScalars none (numberFrom 1 (text.splitOn '\n')) := by
  rw [ofText, linesOf, mapIdx_ofText]

/-- Lines put together are the lines of the text that they make. -/
theorem ofText_joinWith {texts : List Text} (hne : texts ≠ []) (h : ∀ t ∈ texts, '\n' ∉ t) :
    ofText (Text.joinWith "\n" texts) = markScalars none (numberFrom 1 texts) := by
  rw [ofText_eq, Text.joinWith, show "\n".toList = ['\n'] from rfl,
    List.splitOn_intercalate '\n' h hne]

theorem numberFrom_append (a b : List Text) : ∀ n : Int,
    numberFrom n (a ++ b) = numberFrom n a ++ numberFrom (n + a.length) b := by
  induction a with
  | nil => simp [numberFrom]
  | cons t rest ih =>
    intro n
    simp only [List.cons_append, numberFrom, ih, List.length_cons, Int.natCast_add,
      Int.natCast_one, Int.add_assoc, Int.add_comm 1]

theorem exists_of_mem_numberFrom {l : Line} {texts : List Text} : ∀ {n : Int},
    l ∈ numberFrom n texts → ∃ t ∈ texts, ∃ m, l = Line.ofText m t := by
  induction texts with
  | nil => simp [numberFrom]
  | cons t rest ih =>
    intro n h
    rcases List.mem_cons.mp h with rfl | h
    · exact ⟨t, by simp, n, rfl⟩
    · obtain ⟨u, hu, m, hl⟩ := ih h
      exact ⟨u, by simp [hu], m, hl⟩

@[simp]
theorem length_numberFrom (texts : List Text) :
    ∀ n, (numberFrom n texts).length = texts.length := by
  induction texts with
  | nil => exact fun _ => rfl
  | cons t rest ih => exact fun n => by simp [numberFrom, ih]

theorem map_raw_numberFrom (texts : List Text) : ∀ n,
    (numberFrom n texts).map Line.raw = texts.map (Text.dropEndWhile (· == '\r')) := by
  induction texts with
  | nil => exact fun _ => rfl
  | cons t rest ih => exact fun n => by simp [numberFrom, ih, Line.ofText]

/-- The numbers of a run of lines lie in one range. -/
theorem number_of_mem_numberFrom {l : Line} {texts : List Text} : ∀ {n : Int},
    l ∈ numberFrom n texts → n ≤ l.number ∧ l.number < n + texts.length := by
  induction texts with
  | nil => simp [numberFrom]
  | cons t rest ih =>
    intro n h
    rcases List.mem_cons.mp h with rfl | h
    · simp only [Line.ofText, List.length_cons, Int.natCast_add, Int.natCast_one]
      omega
    · obtain ⟨hlow, hhigh⟩ := ih h
      simp only [List.length_cons, Int.natCast_add, Int.natCast_one]
      omega

/-- Lines read again from their own texts lose nothing more. -/
theorem numberFrom_map_raw (texts : List Text) (m n : Int) :
    numberFrom n ((numberFrom m texts).map Line.raw) = numberFrom n texts := by
  rw [map_raw_numberFrom]
  induction texts generalizing n with
  | nil => rfl
  | cons t rest ih =>
    simp only [List.map_cons, numberFrom, ih, Line.ofText, Text.dropEndWhile_dropEndWhile]

/-- Only the trimmed texts and the first number matter to lines that are moved. -/
theorem map_moved_numberFrom {a b : List Text} (h : a.map Text.trimEnd = b.map Text.trimEnd)
    (offset n : Int) :
    (numberFrom (n + offset) a).map (moved id) = (numberFrom n b).map (moved (· + offset)) := by
  induction a generalizing b n with
  | nil =>
    rw [List.map_nil, eq_comm, List.map_eq_nil_iff] at h
    rw [h]
    rfl
  | cons s a ih =>
    cases b with
    | nil => cases h
    | cons t b =>
      obtain ⟨hst, hab⟩ := List.cons.inj h
      have hrest := ih hab (n + 1)
      rw [show n + 1 + offset = n + offset + 1 by omega] at hrest
      simp only [numberFrom, List.map_cons, hrest]
      simp [moved, Line.ofText, hst]

/-! ## Marking -/

/-- Whether a scalar that is open at this indent holds on to the line. -/
def isHeld (holder : Option Nat) (l : Line) : Bool :=
  holder.any fun indent => l.isBlank || indent < l.indent

/-- The indent of the scalar that is open after some lines. -/
def holderAfter (holder : Option Nat) : List Line → Option Nat
  | [] => holder
  | l :: rest =>
    if isHeld holder l then holderAfter holder rest
    else holderAfter (if l.opensScalar then some l.indent else none) rest

theorem markScalars_cons_held {holder : Option Nat} {l : Line} (h : isHeld holder l = true)
    (rest : List Line) :
    markScalars holder (l :: rest) = { l with inScalar := true } :: markScalars holder rest := by
  rw [markScalars]
  exact if_pos h

theorem markScalars_cons_free {holder : Option Nat} {l : Line} (h : isHeld holder l = false)
    (rest : List Line) : markScalars holder (l :: rest) =
      l :: markScalars (if l.opensScalar then some l.indent else none) rest := by
  rw [markScalars, if_neg (by simpa [isHeld] using h)]

/-- Where no scalar is open, every line is read for itself. -/
theorem markScalars_cons_none (l : Line) (rest : List Line) : markScalars none (l :: rest) =
    l :: markScalars (if l.opensScalar then some l.indent else none) rest :=
  markScalars_cons_free rfl rest

theorem markScalars_append (a b : List Line) : ∀ holder,
    markScalars holder (a ++ b) = markScalars holder a ++ markScalars (holderAfter holder a) b := by
  induction a with
  | nil => exact fun _ => rfl
  | cons l rest ih =>
    intro holder
    cases h : isHeld holder l with
    | true =>
      simp only [List.cons_append, markScalars_cons_held h, ih, holderAfter, h, if_true]
    | false =>
      simp only [List.cons_append, markScalars_cons_free h, ih, holderAfter, h,
        Bool.false_eq_true, if_false]

/-- Marking changes nothing but the marks. -/
theorem map_raw_markScalars (lines : List Line) : ∀ holder,
    (markScalars holder lines).map Line.raw = lines.map Line.raw := by
  induction lines with
  | nil => exact fun _ => rfl
  | cons l rest ih =>
    intro holder
    cases h : isHeld holder l with
    | true => simp [markScalars_cons_held h, ih]
    | false => simp [markScalars_cons_free h, ih]

theorem map_number_markScalars (lines : List Line) : ∀ holder,
    (markScalars holder lines).map Line.number = lines.map Line.number := by
  induction lines with
  | nil => exact fun _ => rfl
  | cons l rest ih =>
    intro holder
    cases h : isHeld holder l with
    | true => simp [markScalars_cons_held h, ih]
    | false => simp [markScalars_cons_free h, ih]

theorem number_of_mem_markScalars {holder : Option Nat} {n : Int} {texts : List Text} {l : Line}
    (h : l ∈ markScalars holder (numberFrom n texts)) :
    n ≤ l.number ∧ l.number < n + texts.length := by
  have hmem : l.number ∈ (markScalars holder (numberFrom n texts)).map Line.number :=
    List.mem_map_of_mem h
  rw [map_number_markScalars] at hmem
  obtain ⟨m, hm, hnumber⟩ := List.mem_map.mp hmem
  exact hnumber ▸ number_of_mem_numberFrom hm

@[simp]
theorem length_markScalars (holder : Option Nat) (lines : List Line) :
    (markScalars holder lines).length = lines.length := by
  simpa using congrArg List.length (map_raw_markScalars lines holder)

/-- Lines of which none opens a scalar stay as they are. -/
theorem markScalars_eq_self {lines : List Line} (h : ∀ l ∈ lines, l.opensScalar = false) :
    markScalars none lines = lines := by
  induction lines with
  | nil => rfl
  | cons l rest ih =>
    rw [markScalars_cons_none, h l (by simp), if_neg (by simp),
      ih fun m hm => h m (by simp [hm])]

/-- A cut of a marked document is a cut of its texts. -/
theorem exists_cut {holder : Option Nat} {n : Int} {texts : List Text} {a b : List Line}
    (h : markScalars holder (numberFrom n texts) = a ++ b) :
    ∃ s t, texts = s ++ t ∧ a = markScalars holder (numberFrom n s) ∧
      b = markScalars (holderAfter holder (numberFrom n s)) (numberFrom (n + s.length) t) := by
  refine ⟨texts.take a.length, texts.drop a.length, (List.take_append_drop _ _).symm, ?_⟩
  have hlen := congrArg List.length h
  simp only [length_markScalars, length_numberFrom, List.length_append] at hlen
  rw [← List.take_append_drop a.length texts, numberFrom_append, markScalars_append] at h
  obtain ⟨ha, hb⟩ := List.append_inj h (by
    rw [length_markScalars, length_numberFrom, List.length_take]; omega)
  exact ⟨ha.symm, hb.symm⟩

/-! ## Numbers -/

theorem pairwise_number_numberFrom (texts : List Text) : ∀ n,
    (numberFrom n texts).Pairwise fun a b => a.number < b.number := by
  induction texts with
  | nil => exact fun _ => .nil
  | cons t rest ih =>
    intro n
    refine .cons (fun l hl => ?_) (ih (n + 1))
    have hlow := (number_of_mem_numberFrom hl).1
    simp only [Line.ofText]
    omega

/-- The numbers of a document ascend, so no line is there twice. -/
theorem pairwise_number (text : Text) :
    (ofText text).Pairwise fun a b => a.number < b.number := by
  rw [← List.pairwise_map (R := (· < ·)), ofText_eq, map_number_markScalars, List.pairwise_map]
  exact pairwise_number_numberFrom _ 1

theorem number_of_getElem?_numberFrom {l : Line} {texts : List Text} : ∀ {n : Int} {i : Nat},
    (numberFrom n texts)[i]? = some l → l.number = n + i := by
  induction texts with
  | nil => simp [numberFrom]
  | cons t rest ih =>
    intro n i h
    cases i with
    | zero =>
      obtain rfl : Line.ofText n t = l := by simpa [numberFrom] using h
      simp [Line.ofText]
    | succ i =>
      rw [ih (by simpa [numberFrom] using h)]
      omega

/-- The number of a line is one more than its index. -/
theorem number_of_getElem? {text : Text} {l : Line} {i : Nat} (h : (ofText text)[i]? = some l) :
    l.number = i + 1 := by
  have hnumber : ((ofText text).map Line.number)[i]? = some l.number := by simp [h]
  rw [ofText_eq, map_number_markScalars, List.getElem?_map, Option.map_eq_some_iff] at hnumber
  obtain ⟨m, hm, hsame⟩ := hnumber
  rw [← hsame, number_of_getElem?_numberFrom hm, Int.add_comm]

@[simp]
theorem length_ofText (text : Text) : (ofText text).length = (text.splitOn '\n').length := by
  rw [ofText_eq, length_markScalars, length_numberFrom]

/-- Even the empty text has one line. -/
theorem ofText_ne_nil (text : Text) : ofText text ≠ [] := by
  rw [ne_eq, ← List.length_eq_zero_iff, length_ofText, List.length_eq_zero_iff]
  exact List.splitOn_ne_nil _ _

theorem number_of_mem {text : Text} {l : Line} (h : l ∈ ofText text) :
    1 ≤ l.number ∧ l.number ≤ (ofText text).length := by
  rw [length_ofText]
  rw [ofText_eq] at h
  have hnumber := number_of_mem_markScalars h
  omega

/-! ## The texts of lines -/

/-- No piece holds the character at which a text is cut. -/
theorem not_mem_of_mem_splitOn {c : Char} (text : Text) : ∀ t ∈ text.splitOn c, c ∉ t := by
  induction text with
  | nil => simp
  | cons d rest ih =>
    rw [List.splitOn_cons_eq_if_modifyHead]
    split
    · intro t ht
      rcases List.mem_cons.mp ht with rfl | ht
      · simp
      · exact ih t ht
    · next hd =>
      cases hs : rest.splitOn c with
      | nil => simp
      | cons first others =>
        intro t ht
        rw [List.modifyHead_cons] at ht
        rcases List.mem_cons.mp ht with rfl | ht
        · have hfirst := ih first (by simp [hs])
          simp only [beq_iff_eq] at hd
          simp [hfirst, Ne.symm hd]
        · exact ih t (by simp [hs, ht])

/-- A line of a document is one of the text, less the carriage returns at its end. -/
theorem exists_raw_eq {text : Text} {l : Line} (h : l ∈ ofText text) :
    ∃ t ∈ text.splitOn '\n', l.raw = Text.dropEndWhile (· == '\r') t := by
  have hmem : l.raw ∈ (ofText text).map Line.raw := List.mem_map_of_mem h
  rw [ofText_eq, map_raw_markScalars, map_raw_numberFrom] at hmem
  obtain ⟨t, ht, hraw⟩ := List.mem_map.mp hmem
  exact ⟨t, ht, hraw.symm⟩

/-- No line of a document holds a line feed. -/
theorem newline_not_mem_raw {text : Text} {l : Line} (h : l ∈ ofText text) : '\n' ∉ l.raw := by
  obtain ⟨t, ht, hraw⟩ := exists_raw_eq h
  rw [hraw]
  exact fun hnl => not_mem_of_mem_splitOn text t ht (Text.mem_of_mem_dropEndWhile hnl)

/-- The text of a line of a document reads as that line. -/
theorem raw_ofText_raw {text : Text} {l : Line} (h : l ∈ ofText text) (n : Int) :
    (Line.ofText n l.raw).raw = l.raw := by
  obtain ⟨t, -, hraw⟩ := exists_raw_eq h
  rw [hraw]
  exact Text.dropEndWhile_dropEndWhile _ t

end Document

end ComposeLint
