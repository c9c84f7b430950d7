import ComposeLint.Proofs.Text.Utf8
import ComposeLint.Snippet.Store

/-! # When the store has no answer

A file that is missing, or a directory in its place, is answered by no snippets and by the built-in
document; a text is answered by what it holds, and one that breaks the rules of YAML by no snippets.
Two faults are left. Octets that are no text are one for either file. For snippets the other is any
fault of the loader but a broken rule. What the loader makes of a text is left to the loader. -/

namespace ComposeLint

namespace Snippet

variable {ε : Type} {load : Yaml.Loader ε} {text : Text}

/-- The snippets of a text, by what its value is. -/
theorem readList_eq_ok_iff {snippets : List Snippet} :
    readList load text = .ok snippets ↔
      (∃ v, load text = .ok v ∧ snippets = listOfValue v) ∨
        load text = .error .malformed ∧ snippets = [] := by
  rw [readList]
  rcases load text with (_ | fault) | v <;> simp [eq_comm]

theorem readList_eq_error_iff {fault : ε} :
    readList load text = .error fault ↔ load text = .error (.other fault) := by
  rw [readList]
  rcases load text with (_ | fault') | v <;> simp

end Snippet

namespace Store

theorem startupDocument_eq_ok_iff {s : Store} {d : StartupDocument} :
    s.startupDocument = .ok d ↔
      (s.startup = .absent ∨ s.startup = .directory) ∧ d = fallback ∨
        ∃ text, s.startup = .ofText text ∧ d = ⟨text.unifyBreaks, none⟩ := by
  have hanswer : s.startupDocument = .ok d ↔
      ∃ t?, s.startup.read = .ok t? ∧ d = t?.elim fallback (⟨·, none⟩) := by
    rw [startupDocument]
    rcases s.startup.read with fault | _ | t <;>
      simp [bind, Except.bind, pure, Except.pure, eq_comm]
  simp only [hanswer, FileState.read_eq_ok_iff]
  grind

theorem startupDocument_eq_error_iff {s : Store} :
    (∃ fault, s.startupDocument = .error fault) ↔ s.startup.IsUnreadable := by
  rw [← FileState.read_eq_error_iff, startupDocument]
  rcases s.startup.read with fault | _ | t <;> simp [bind, Except.bind, pure, Except.pure]

section CustomSnippets

variable {ε : Type} {load : Yaml.Loader ε} {s : Store}

/-- The steps of the reading, each with its fault. -/
theorem customSnippets_eq (load : Yaml.Loader ε) (s : Store) : s.customSnippets load =
    match s.custom.read with
    | .error fault => .error (.encoding fault)
    | .ok none => .ok []
    | .ok (some t) =>
      match Snippet.readList load t with
      | .error fault => .error (.value fault)
      | .ok snippets => .ok snippets := by
  rw [customSnippets]
  rcases s.custom.read with fault | _ | t
  · rfl
  · rfl
  · change (Snippet.readList load t).mapError StoreFault.value = _
    dsimp only
    cases Snippet.readList load t <;> rfl

theorem customSnippets_eq_ok_iff {snippets : List Snippet} :
    s.customSnippets load = .ok snippets ↔
      (s.custom = .absent ∨ s.custom = .directory) ∧ snippets = [] ∨
        ∃ text, s.custom = .ofText text ∧
          Snippet.readList load text.unifyBreaks = .ok snippets := by
  have hanswer : s.customSnippets load = .ok snippets ↔
      ∃ t?, s.custom.read = .ok t? ∧
        t?.elim (snippets = []) (Snippet.readList load · = .ok snippets) := by
    rw [customSnippets_eq]
    rcases s.custom.read with fault | _ | t
    · simp
    · simp [eq_comm]
    · cases hread : Snippet.readList load t <;> simp [hread]
  simp only [hanswer, FileState.read_eq_ok_iff]
  grind

theorem customSnippets_eq_error_iff :
    (∃ fault, s.customSnippets load = .error fault) ↔
      s.custom.IsUnreadable ∨
        ∃ text fault, s.custom = .ofText text ∧
          Snippet.readList load text.unifyBreaks = .error fault := by
  have hfault : (∃ fault, s.customSnippets load = .error fault) ↔
      (∃ fault, s.custom.read = .error fault) ∨
        ∃ t fault, s.custom.read = .ok (some t) ∧ Snippet.readList load t = .error fault := by
    rw [customSnippets_eq]
    rcases s.custom.read with fault | _ | t
    · simp
    · simp
    · cases hread : Snippet.readList load t <;> simp [hread]
  simp only [hfault, FileState.read_eq_error_iff, FileState.read_eq_ok_iff]
  grind

end CustomSnippets

/-- **What the store answers.** The document to begin with is the built-in one where there is no
file, the text of the file with its line breaks unified where there is a text, and none exactly if
the octets of the file are no text. The snippets are none where there is no file or where the loader
finds a broken rule, and those of the value that it finds else; there is no answer exactly if the
octets of the file are no text, or the loader has any other fault to find with the text. -/
theorem store_answers_exactly {ε : Type} (load : Yaml.Loader ε) (s : Store) :
    ((∀ d, s.startupDocument = .ok d ↔
        (s.startup = .absent ∨ s.startup = .directory) ∧ d = fallback ∨
          ∃ text, s.startup = .ofText text ∧ d = ⟨text.unifyBreaks, none⟩) ∧
      ((∃ fault, s.startupDocument = .error fault) ↔ s.startup.IsUnreadable)) ∧
    (∀ snippets, s.customSnippets load = .ok snippets ↔
      (s.custom = .absent ∨ s.custom = .directory) ∧ snippets = [] ∨
        ∃ text, s.custom = .ofText text ∧
          ((∃ v, load text.unifyBreaks = .ok v ∧ snippets = Snippet.listOfValue v) ∨
            load text.unifyBreaks = .error .malformed ∧ snippets = [])) ∧
    ((∃ fault, s.customSnippets load = .error fault) ↔
      s.custom.IsUnreadable ∨
        ∃ text fault, s.custom = .ofText text ∧
          load text.unifyBreaks = .error (.other fault)) := by
  refine ⟨⟨fun d => startupDocument_eq_ok_iff, startupDocument_eq_error_iff⟩,
    fun snippets => ?_, ?_⟩
  · simp only [customSnippets_eq_ok_iff, Snippet.readList_eq_ok_iff]
  · simp only [customSnippets_eq_error_iff, Snippet.readList_eq_error_iff]

/-- An octet that begins no character leaves both files without an answer, whatever the loader, and a
loader that gives up on a text for its own reasons leaves the snippets without one. -/
theorem store_answers_nothing :
    let broken : Store := ⟨.contents [0xFF], .contents [0xFF]⟩
    let refusing : Yaml.Loader Unit := fun _ => .error (.other ())
    broken.startupDocument.toOption = none ∧
      (∀ (ε : Type) (load : Yaml.Loader ε), (broken.customSnippets load).toOption = none) ∧
      (customSnippets refusing ⟨.ofText "- a".toList, .absent⟩).toOption = none :=
  ⟨rfl, fun _ _ => rfl, by decide +kernel⟩

end Store

end ComposeLint
