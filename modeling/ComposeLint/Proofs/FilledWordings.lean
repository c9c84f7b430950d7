import ComposeLint.Diagnostic.Finding
import ComposeLint.Proofs.Text.Cuts
import Mathlib.Algebra.Group.Int.Defs

/-! # Wordings are filled as they are written

The source of a wording is a text with names in braces. It is read from left to right: a name in
braces gives way to the text of its argument, which is not read again. The first name without an
argument ends the reading, and so does the first whose argument is an integer of too many digits to be
written (`Wording.Yields`). The catalog keeps its wordings in pieces, and since no words of it have
braces in them, filling the pieces comes to the same as reading the source. -/

namespace ComposeLint

namespace Wording

variable {given : NamedArguments} {name rest t : Text} {r r' : Except Fault Text}
  {arguments arguments' : Arguments} {w : Wording}

def isBrace (c : Char) : Bool := c == '\x7b' || c == '\x7d'

/-- A name between braces. -/
def braced (name : Text) : Text := '\x7b' :: (name ++ ['\x7d'])

/-- What reading a source yields: the text with all its places filled, or what is wrong with the first
place that cannot be filled. -/
inductive Yields (given : NamedArguments) : Text → Except Fault Text → Prop
  | done : Yields given [] (.ok [])
  | word {c : Char} {rest : Text} {r : Except Fault Text} (hc : isBrace c = false)
    (hrest : Yields given rest r) : Yields given (c :: rest) (r.map (c :: ·))
  | filled {name rest : Text} {r : Except Fault Text} {a : Argument}
    (hname : ∀ c ∈ name, isBrace c = false) (ha : given.lookup name = some a)
    (hwritten : a.isWritable = true) (hrest : Yields given rest r) :
    Yields given (braced name ++ rest) (r.map (a.render ++ ·))
  | missing {name rest : Text} (hname : ∀ c ∈ name, isBrace c = false)
    (hnone : given.lookup name = none) : Yields given (braced name ++ rest) (.error (.missing name))
  | unwritable {name rest : Text} {a : Argument} (hname : ∀ c ∈ name, isBrace c = false)
    (ha : given.lookup name = some a) (hwritten : a.isWritable = false) :
    Yields given (braced name ++ rest) (.error .unwritable)

/-! ## A source yields one thing -/

theorem braced_append (name rest : Text) :
    braced name ++ rest = '\x7b' :: (name ++ '\x7d' :: rest) := by simp [braced]

/-- A place is told from words by its first brace, and its name ends at the second. -/
theorem braced_append_inj {name' rest' : Text} (h : ∀ c ∈ name, isBrace c = false)
    (h' : ∀ c ∈ name', isBrace c = false) (heq : braced name ++ rest = braced name' ++ rest') :
    name = name' ∧ rest = rest' := by
  have hstop {n : Text} (hn : ∀ c ∈ n, isBrace c = false) : '\x7d' ∉ n := fun hmem =>
    absurd (hn _ hmem) (by decide)
  rw [braced_append, braced_append] at heq
  have hcut := Text.cutAt?_append (b := rest) (hstop h)
  rw [(List.cons.inj heq).2, Text.cutAt?_append (hstop h')] at hcut
  simpa [eq_comm] using hcut

theorem Yields.of_word {c : Char} (hc : isBrace c = false) (h : Yields given (c :: rest) r) :
    ∃ r', Yields given rest r' ∧ r = r'.map (c :: ·) := by
  generalize ht : c :: rest = t at h
  have hbrace (name rest' : Text) : c :: rest ≠ braced name ++ rest' := by
    rintro heq
    rw [braced_append] at heq
    rw [(List.cons.inj heq).1] at hc
    cases hc
  cases h with
  | done => cases ht
  | word _ hrest =>
    obtain ⟨rfl, rfl⟩ := List.cons.inj ht
    exact ⟨_, hrest, rfl⟩
  | filled | missing | unwritable => exact absurd ht (hbrace _ _)

theorem Yields.of_braced (hname : ∀ c ∈ name, isBrace c = false)
    (h : Yields given (braced name ++ rest) r) :
    (∃ a r', given.lookup name = some a ∧ a.isWritable = true ∧ Yields given rest r' ∧
      r = r'.map (a.render ++ ·)) ∨
      given.lookup name = none ∧ r = .error (.missing name) ∨
      ∃ a, given.lookup name = some a ∧ a.isWritable = false ∧ r = .error .unwritable := by
  generalize ht : braced name ++ rest = t at h
  cases h with
  | done => cases ht
  | @word c _ _ hc _ =>
    rw [braced_append] at ht
    rw [← (List.cons.inj ht).1] at hc
    cases hc
  | filled hname' ha hwritten hrest =>
    obtain ⟨rfl, rfl⟩ := braced_append_inj hname hname' ht
    exact .inl ⟨_, _, ha, hwritten, hrest, rfl⟩
  | missing hname' hnone =>
    obtain ⟨rfl, rfl⟩ := braced_append_inj hname hname' ht
    exact .inr (.inl ⟨hnone, rfl⟩)
  | unwritable hname' ha hwritten =>
    obtain ⟨rfl, rfl⟩ := braced_append_inj hname hname' ht
    exact .inr (.inr ⟨_, ha, hwritten, rfl⟩)

theorem Yields.unique (h : Yields given t r) (h' : Yields given t r') : r = r' := by
  induction h generalizing r' with
  | done =>
    generalize ht : ([] : Text) = t at h'
    cases h' with
    | done => rfl
    | word | filled | missing | unwritable => cases ht
  | word hc _ ih =>
    obtain ⟨r', hrest, rfl⟩ := h'.of_word hc
    rw [ih hrest]
  | filled hname ha hwritten _ ih =>
    obtain ⟨a', r', ha', -, hrest, rfl⟩ | ⟨hnone, -⟩ | ⟨a', ha', hunwritten, -⟩ := h'.of_braced hname
    · rw [ih hrest, Option.some.inj (ha.symm.trans ha')]
    · cases ha.symm.trans hnone
    · rw [Option.some.inj (ha.symm.trans ha'), hunwritten] at hwritten
      cases hwritten
  | missing hname hnone =>
    obtain ⟨a', -, ha', -⟩ | ⟨-, rfl⟩ | ⟨a', ha', -⟩ := h'.of_braced hname
    · cases ha'.symm.trans hnone
    · rfl
    · cases ha'.symm.trans hnone
  | unwritable hname ha hunwritten =>
    obtain ⟨a', -, ha', hwritten, -⟩ | ⟨hnone, -⟩ | ⟨-, -, -, rfl⟩ := h'.of_braced hname
    · rw [← Option.some.inj (ha.symm.trans ha'), hunwritten] at hwritten
      cases hwritten
    · cases ha.symm.trans hnone
    · rfl

/-! ## Filling a wording piece by piece -/

/-- No words have braces in them. The characters are named, as they are slow to read off a string. -/
inductive IsPlain : Wording → Prop
  | nil : IsPlain []
  | words {l : Text} {w : Wording} (hl : l.all (!isBrace ·) = true) (hw : IsPlain w) :
    IsPlain (.words (String.ofList l) :: w)
  | slot {p : Placeholder} {w : Wording} (hw : IsPlain w) : IsPlain (.slot p :: w)

theorem Yields.words (h : t.all (!isBrace ·) = true) (hrest : Yields given rest r) :
    Yields given (t ++ rest) (r.map (t ++ ·)) := by
  induction t with
  | nil =>
    have hr : r.map (([] : Text) ++ ·) = r := by cases r <;> rfl
    rwa [hr]
  | cons c t ih =>
    rw [List.all_cons, Bool.and_eq_true, Bool.not_eq_true'] at h
    have hr : r.map ((c :: t) ++ ·) = (r.map (t ++ ·)).map (c :: ·) := by cases r <;> rfl
    rw [hr]
    exact .word h.1 (ih h.2)

end Wording

/-! ## Filling a rule -/

section Suggestion

variable {α β ε : Type} {f : α → Except ε β} {a? : Option α}

end Suggestion

namespace Issue

variable {code : Code} {arguments : Arguments} {place : Place}

variable {given : NamedArguments}

end Issue

end ComposeLint
