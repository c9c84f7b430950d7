import ComposeLint.Proofs.Document.Blocks
import ComposeLint.Proofs.Rendering.Words

/-! # What headers name

The header of an entry shows a name and no more than a colon after it
(`EntryKind.exists_name_of_isHeader`). Its block has this name, and with the colon the line is a key of
the same name to every reader of keys. -/

namespace ComposeLint

/-! ## Headers -/

theorem Text.isToken_isNameOf_append {kind : EntryKind} {name tail : Text}
    (hname : name.isNameOf kind = true) (htail : tail = [] ∨ tail = [':']) :
    (name ++ tail).isToken = true := by
  have htoken := isToken_of_isKeyName (isKeyName_of_isNameOf hname)
  rcases htail with rfl | rfl
  · rwa [List.append_nil]
  · rw [isToken_iff] at htoken ⊢
    refine ⟨by simp, fun c hc => ?_⟩
    rcases List.mem_append.mp hc with hc | hc
    · exact htoken.2 c hc
    · rw [List.mem_singleton.mp hc]
      decide

namespace EntryKind

variable {kind : EntryKind}

theorem eq_of_mayEndWith {tail : Text} (h : kind.mayEndWith tail = true) :
    tail = [] ∨ tail = [':'] := by
  cases kind with
  | service => exact .inr (by simpa [mayEndWith] using h)
  | network | volume =>
    simp only [mayEndWith, Bool.or_eq_true, List.isEmpty_iff, beq_iff_eq] at h
    exact h

/-- A header shows a name and no more than a colon after it. -/
theorem exists_name_of_isHeader {l : Line} (h : kind.isHeader l = true) : ∃ name tail : Text,
    l.trimmed = name ++ tail ∧ name.isNameOf kind = true ∧ kind.mayEndWith tail = true := by
  unfold isHeader at h
  split at h
  · next c rest hraw =>
    simp only [Bool.and_eq_true] at h
    let name : Text := c :: rest.takeWhile kind.isNameChar
    let tail : Text := rest.dropWhile kind.isNameChar
    have htail : tail = [] ∨ tail = [':'] := eq_of_mayEndWith h.2
    have hname : name.isNameOf kind = true := by
      have hc : kind.isNameChar c = true := by simp [isNameChar, h.1]
      simp [name, Text.isNameOf, h.1, hc]
    have htext : l.raw.trimEnd = ' ' :: ' ' :: (name ++ tail) := by
      rw [hraw, List.cons_append, List.takeWhile_append_dropWhile]
    refine ⟨name, tail, ?_, hname, h.2⟩
    calc l.trimmed = Text.trim (' ' :: ' ' :: (name ++ tail)) := by
          rw [← htext, Text.trim_trimEnd, Line.trimmed]
      _ = Text.trim (name ++ tail) := rfl
      _ = name ++ tail :=
          Text.trim_isValue (Text.isValue_of_isToken (Text.isToken_isNameOf_append hname htail))
  · cases h

end EntryKind

/-! ## Names -/

section Names

variable {kind : EntryKind} {name : Text} (hname : name.isNameOf kind = true)
include hname

theorem Text.getLast?_ne_colon_of_isNameOf : name.getLast? ≠ some ':' := by
  simp only [isNameOf, Bool.and_eq_true, List.all_eq_true] at hname
  intro hlast
  exact ne_of_class (hname.2 ':' (List.mem_of_getLast? hlast)) (by cases kind <;> decide) rfl

theorem Block.name_eq_of_trimmed {b : Block}
    (h : b.header.trimmed = name ∨ b.header.trimmed = name ++ [':']) : b.name = name := by
  unfold Block.name
  rcases h with h | h
  · simp [h, Text.getLast?_ne_colon_of_isNameOf hname]
  · simp [h]

theorem Line.key?_of_trimmed_colon {l : Line} (h : l.trimmed = name ++ [':']) :
    l.key? = some name := by
  have hclean : (Row.key 2 name).isClean = true := Text.isKeyName_of_isNameOf hname
  have htrimmed : l.trimmed = ((Row.key 2 name).line 1).trimmed := by
    rw [h, Row.line_trimmed 1 hclean, Row.written]
  have hrole : l.role = .mappingKey name [] := by
    rw [Line.role, htrimmed]
    exact Row.line_role 1 hclean
  rw [Line.key?, hrole]

theorem Line.key?_of_trimmed {l : Line} (h : l.trimmed = name) : l.key? = none := by
  obtain ⟨hbare, hdash⟩ := Text.isKeyName_iff.mp (Text.isKeyName_of_isNameOf hname)
  obtain ⟨hne, hall⟩ := Text.isBare_iff.mp hbare
  obtain ⟨c, rest, rfl⟩ := List.exists_cons_of_ne_nil hne
  have hread : KeyValue.read? (c :: rest) = none :=
    KeyValue.read?_eq_none fun d hd => Text.isKeyChar_of_isBareChar (hall d hd)
  have hrole : l.role = .unknown := by
    rw [Line.role, h, Role.ofTrimmed_eq_of_head
      ⟨Text.ne_of_class (hall c List.mem_cons_self) (by decide), by simpa using hdash⟩, hread]
    rfl
  rw [Line.key?, hrole]

end Names

/-- A service has its colon, so its header gives its name as a key. -/
theorem Block.key?_header_of_isHeader {b : Block} (h : EntryKind.service.isHeader b.header = true) :
    b.header.key? = some b.name := by
  obtain ⟨name, tail, htrimmed, hname, htail⟩ := EntryKind.exists_name_of_isHeader h
  obtain rfl : tail = [':'] := by simpa [EntryKind.mayEndWith] using htail
  rw [Line.key?_of_trimmed_colon hname htrimmed, name_eq_of_trimmed hname (.inr htrimmed)]

end ComposeLint
