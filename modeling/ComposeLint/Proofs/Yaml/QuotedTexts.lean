import ComposeLint.Proofs.Yaml.LoadedValues
import ComposeLint.Text.Quoted
import Mathlib.Algebra.Group.Nat.Defs
import Mathlib.Data.List.Forall2

/-!
# Texts in double quotes

A character in double quotes may stand for itself, or be written as one of the escapes. However each
character is written, what is loaded is the text; and since every character can be written by its
number, every text can be written.
-/

namespace ComposeLint

namespace CodeUnit

theorem toNat_cases (c : Char) : c.toNat < 0xD800 ∨ 0xDFFF < c.toNat ∧ c.toNat < 0x110000 :=
  c.valid

/-- Characters are no halves. -/
theorem isHalf_toNat (c : Char) : isHigh c.toNat = false ∧ isLow c.toNat = false := by
  have h := toNat_cases c
  simp only [isHigh, isLow, Bool.and_eq_false_iff, decide_eq_false_iff_not]
  omega

theorem char_toNat (c : Char) : char c.toNat = c := by
  rw [char, (isHalf_toNat c).1, (isHalf_toNat c).2]
  exact Char.ofNat_toNat c

theorem text_map_toNat (t : Text) : text (t.map Char.toNat) = t := by
  induction t with
  | nil => rfl
  | cons c t ih =>
    cases t with
    | nil => exact congrArg (· :: []) (char_toNat c)
    | cons d t =>
      have hnone : (isHigh c.toNat && isLow d.toNat) = false := by rw [(isHalf_toNat c).1]; rfl
      simp only [List.map_cons, text, hnone, char_toNat] at ih ⊢
      exact congrArg (c :: ·) ih

end CodeUnit

namespace Yaml

/-- Characters that stand for themselves in double quotes. -/
def isOwn (c : Char) : Bool := isAllowed c && !isGap c && !isBreak c && c != '"' && c != '\\'

/-- The number that hexadecimal figures give. -/
def hexNumber (figures : Text) : Nat := figures.foldl (fun n h => 16 * n + Text.hexValue h) 0

/-- A character as it may be written in double quotes. -/
inductive Spells : Char → Text → Prop
  | own {c : Char} (h : isOwn c = true) : Spells c [c]
  | short {c mark : Char} (h : escapes.lookup mark = some c) : Spells c ['\\', mark]
  | code {c mark : Char} {figures : Text} (hmark : codeEscapes.lookup mark = some figures.length)
    (hfigures : figures.all Text.isHexFigure = true) (hcode : hexNumber figures = c.toNat) :
    Spells c ('\\' :: mark :: figures)

/-! ### The cursor by what remains -/

namespace Cursor

variable {c : Cursor} {ch : Char} {rest : Text}

theorem peek_of_rest (h : c.rest = ch :: rest) : c.peek = some ch := by
  rw [peek, h]
  rfl

theorem rest_advance (h : c.rest = ch :: rest) : c.advance.rest = rest := by
  obtain ⟨chars, left, index, row, column, left_eq⟩ := c
  obtain rfl : chars = ch :: rest := h
  simp only [advance]
  split <;> rfl

theorem rest_skip {part : Text} (h : c.rest = part ++ rest) : (c.skip part.length).rest = rest := by
  induction part generalizing c with
  | nil => exact h
  | cons ch part ih => exact ih (rest_advance h)

end Cursor

/-! ### Scalars -/

section

variable {c : Cursor} {ch mark : Char} {rest piece : Text}

theorem isAllowed_of_lookup_escapes (h : escapes.lookup mark = some ch) : isAllowed mark = true := by
  have hall : ∀ p ∈ escapes, isAllowed p.1 = true := by decide
  exact hall _ (mem_of_lookup h)

/-- The marks of escapes by number are no others. -/
theorem isAllowed_of_lookup_codeEscapes {size : Nat} (h : codeEscapes.lookup mark = some size) :
    isAllowed mark = true ∧ escapes.lookup mark = none := by
  have hall : ∀ p ∈ codeEscapes, isAllowed p.1 = true ∧ escapes.lookup p.1 = none := by decide
  exact hall _ (mem_of_lookup h)

theorem isAllowed_of_isHexFigure (h : Text.isHexFigure ch = true) : isAllowed ch = true := by
  simp only [Text.isHexFigure, Text.isFigure, Bool.or_eq_true, Bool.and_eq_true, decide_eq_true_eq,
    Char.le_def, UInt32.le_iff_toNat_le] at h
  change (48 ≤ ch.toNat ∧ ch.toNat ≤ 57 ∨ 97 ≤ ch.toNat ∧ ch.toNat ≤ 102) ∨
    65 ≤ ch.toNat ∧ ch.toNat ≤ 70 at h
  simp only [isAllowed, Bool.or_eq_true, Bool.and_eq_true, decide_eq_true_eq]
  omega

theorem codePoint_eq {figures : Text} (h : c.rest = figures ++ rest)
    (hfigures : figures.all Text.isHexFigure = true) (hcode : hexNumber figures = ch.toNat) :
    codePoint figures.length c = .ok (ch.toNat, c.skip figures.length) := by
  have hlt : ch.toNat < 0x110000 := by
    have h := CodeUnit.toNat_cases ch
    omega
  have htake : c.rest.take figures.length = figures := by rw [h]; exact List.take_left
  rw [hexNumber] at hcode
  simp only [codePoint, htake, hcode, hfigures]
  rw [if_neg (by simp), if_neg (by omega), if_neg (by omega)]

theorem liftM_some_bind {α β : Type} (a : α) (f : α → Except Fault β) :
    (liftM (some a) >>= f) = f a := rfl

theorem ok_bind {α β : Type} (a : α) (f : α → Except Fault β) : (Except.ok a >>= f) = f a := rfl

/-- An escape is read to its end. -/
theorem escape_of_spells {tail : Text} (h : Spells ch ('\\' :: tail)) (hc : c.rest = tail ++ rest) :
    ∃ c', escape c = .ok ([ch.toNat], c') ∧ c'.rest = rest := by
  cases h with
  | own h => cases h
  | short h =>
    refine ⟨c.advance, ?_, Cursor.rest_advance hc⟩
    simp only [escape, Cursor.peek_of_rest hc, liftM_some_bind, h]
    rfl
  | @code mark figures hmark hfigures hcode =>
    have hnone := (isAllowed_of_lookup_codeEscapes hmark).2
    have hnext := Cursor.rest_advance hc
    refine ⟨c.advance.skip figures.length, ?_, Cursor.rest_skip hnext⟩
    simp only [escape, Cursor.peek_of_rest hc, liftM_some_bind, hnone, hmark,
      codePoint_eq hnext hfigures hcode]
    rfl

theorem quotedFrom_of_escape {tail : Text} (h : Spells ch ('\\' :: tail))
    (hc : c.rest = '\\' :: tail ++ rest) :
    ∃ c', c'.rest = rest ∧ ∀ fuel, quotedFrom true (fuel + 1) c =
      (quotedFrom true fuel c').map fun result => (ch.toNat :: result.1, result.2) := by
  obtain ⟨c', hescape, hrest⟩ := escape_of_spells h (Cursor.rest_advance hc)
  refine ⟨c', hrest, fun fuel => ?_⟩
  simp only [quotedFrom, Cursor.peek_of_rest hc, liftM_some_bind, hescape, ok_bind]
  cases quotedFrom true fuel c' <;> rfl

/-- One character is one step. -/
theorem quotedFrom_of_spells (h : Spells ch piece) (hc : c.rest = piece ++ rest) :
    ∃ c', c'.rest = rest ∧ ∀ fuel, quotedFrom true (fuel + 1) c =
      (quotedFrom true fuel c').map fun result => (ch.toNat :: result.1, result.2) := by
  cases h with
  | own h =>
    simp only [isOwn, Bool.and_eq_true, Bool.not_eq_true', bne_iff_ne] at h
    obtain ⟨⟨⟨⟨hallowed, hgap⟩, hbreak⟩, hquote⟩, hslash⟩ := h
    refine ⟨c.advance, Cursor.rest_advance hc, fun fuel => ?_⟩
    simp only [quotedFrom, Cursor.peek_of_rest hc, liftM_some_bind, reduceIte, hgap, hbreak,
      beq_eq_false_iff_ne.mpr hquote, beq_eq_false_iff_ne.mpr hslash]
    cases quotedFrom true fuel c.advance <;> rfl
  | short h => exact quotedFrom_of_escape (.short h) hc
  | code hmark hfigures hcode => exact quotedFrom_of_escape (.code hmark hfigures hcode) hc

theorem Spells.ne_nil (h : Spells ch piece) : piece ≠ [] := by
  cases h <;> exact List.cons_ne_nil _ _

theorem Spells.isAllowed (h : Spells ch piece) : ∀ c ∈ piece, isAllowed c = true := by
  have hslash : Yaml.isAllowed '\\' = true := rfl
  cases h with
  | own h =>
    simp only [isOwn, Bool.and_eq_true] at h
    exact List.forall_mem_singleton.mpr h.1.1.1.1
  | short h =>
    exact List.forall_mem_cons.mpr
      ⟨hslash, List.forall_mem_singleton.mpr (isAllowed_of_lookup_escapes h)⟩
  | code hmark hfigures hcode =>
    refine List.forall_mem_cons.mpr ⟨hslash, List.forall_mem_cons.mpr
      ⟨(isAllowed_of_lookup_codeEscapes hmark).1, fun f hf => ?_⟩⟩
    exact isAllowed_of_isHexFigure (List.all_eq_true.mp hfigures f hf)

variable {text : Text} {pieces : List Text}

theorem length_le_of_spells (h : List.Forall₂ Spells text pieces) :
    text.length ≤ pieces.flatten.length := by
  induction h with
  | nil => exact Nat.le_refl _
  | cons h _ ih =>
    have hpos := List.length_pos_iff.mpr h.ne_nil
    rw [List.flatten_cons, List.length_append, List.length_cons]
    omega

theorem quotedFrom_of_forall₂ (h : List.Forall₂ Spells text pieces)
    (hc : c.rest = pieces.flatten ++ '"' :: rest) {fuel : Nat} (hfuel : text.length < fuel) :
    ∃ c', c'.rest = rest ∧ quotedFrom true fuel c = .ok (text.map Char.toNat, c') := by
  induction h generalizing c fuel with
  | nil =>
    cases fuel with
    | zero => cases hfuel
    | succ fuel =>
      refine ⟨c.advance, Cursor.rest_advance hc, ?_⟩
      simp only [quotedFrom, Cursor.peek_of_rest hc]
      rfl
  | cons hfirst _ ih =>
    cases fuel with
    | zero => cases hfuel
    | succ fuel =>
      rw [List.flatten_cons, List.append_assoc] at hc
      obtain ⟨c₁, hc₁, hstep⟩ := quotedFrom_of_spells hfirst hc
      obtain ⟨c₂, hc₂, hrest⟩ := ih hc₁ (Nat.lt_of_succ_lt_succ hfuel)
      exact ⟨c₂, hc₂, by rw [hstep, hrest]; rfl⟩

/-- **What is written in double quotes is read back**, however it is written. -/
theorem quotedScalar_eq (h : List.Forall₂ Spells text pieces)
    (hc : c.rest = '"' :: (pieces.flatten ++ '"' :: rest)) :
    ∃ c', c'.rest = rest ∧ quotedScalar true c = .ok (text, c') := by
  have hfuel : text.length < c.left + 1 := by
    have hlength := length_le_of_spells h
    rw [c.left_eq, hc, List.length_cons, List.length_append]
    omega
  obtain ⟨c', hc', hcodes⟩ := quotedFrom_of_forall₂ h (Cursor.rest_advance hc) hfuel
  refine ⟨c', hc', ?_⟩
  rw [quotedScalar, hcodes, ok_bind]
  exact congrArg (fun t => Except.ok (t, c')) (CodeUnit.text_map_toNat text)

/-! ### Tokens -/

namespace Lexer

variable {l : Lexer}

/-- No possible key of those that are remembered has to be one. -/
def IsFree (l : Lexer) : Prop := ∀ p ∈ l.keys, p.2.isRequired = false

def withoutStaleKeys (l : Lexer) : Lexer :=
  { l with keys := l.keys.filter fun (_, k) => !l.isStale k }

theorem IsFree.withoutStaleKeys (h : l.IsFree) : l.withoutStaleKeys.IsFree :=
  fun p hp => h p (List.mem_filter.mp hp).1

theorem IsFree.dropStaleKeys? (h : l.IsFree) : l.dropStaleKeys? = some l.withoutStaleKeys := by
  unfold Lexer.dropStaleKeys?
  refine if_neg fun hany => ?_
  obtain ⟨p, hp, hrequired⟩ := List.any_eq_true.mp hany
  exact Bool.false_ne_true ((h p hp).symm.trans (Bool.and_eq_true_iff.mp hrequired).2)

theorem IsFree.dropKey? (h : l.IsFree) : ∃ l', l.dropKey? = some l' ∧ l'.tokens = l.tokens := by
  unfold Lexer.dropKey? takeKey
  cases hfound : l.keys.lookup l.depth with
  | none => exact ⟨l, by simp [hfound], rfl⟩
  | some k =>
    have hrequired : k.isRequired = false := h _ (mem_of_lookup hfound)
    exact ⟨{ l with keys := l.keys.filter (·.1 != l.depth) }, by simp [hfound, hrequired], rfl⟩

theorem unwind_of_indent_le {column : Int} (h : l.indent ≤ column) : l.unwind column = l := by
  unfold unwind closeBlocks
  simp [h]

theorem skipMark_at_end (hrest : l.cursor.rest = []) : l.skipMark = l := by
  unfold skipMark Cursor.peek
  rw [hrest]
  simp

theorem skipGap_at_end (hrest : l.cursor.rest = []) (fuel : Nat) : l.skipGap (fuel + 1) = l := by
  have hafter (p : Char → Bool) : l.cursor.after p = l.cursor := by
    unfold Cursor.after Cursor.run
    rw [hrest]
    rfl
  have hbreak : l.cursor.break? = none := by
    unfold Cursor.break?
    rw [hrest]
  have hpeek : (l.cursor.peek == some '#') = false := by
    rw [Cursor.peek, hrest]
    rfl
  simp only [skipGap, hafter, hpeek, hbreak, reduceIte, Bool.false_eq_true]
  rfl

/-- At the end of a text without open blocks there are no more tokens. -/
theorem step_at_end (hrest : l.cursor.rest = []) (hindent : l.indent = -1) (hfree : l.IsFree) :
    ∃ l', l.step = .ok l' ∧ l'.tokens = l.tokens := by
  obtain ⟨l', hdrop, htokens⟩ := hfree.withoutStaleKeys.dropKey?
  have hpeek : l.withoutStaleKeys.cursor.peek = none := congrArg List.head? hrest
  have hindent' : l.withoutStaleKeys.indent = -1 := hindent
  refine ⟨l', ?_, htokens⟩
  simp only [step, skipMark_at_end hrest, skipGap_at_end hrest, hfree.dropStaleKeys?,
    liftM_some_bind]
  rw [unwind_of_indent_le (by rw [hindent']; omega)]
  simp only [hpeek]
  rw [unwind_of_indent_le (Int.le_of_eq hindent'), hdrop]
  rfl

/-- What is known once the scalar at the start of a text was read. It may turn out to be a key. -/
def afterScalar (tail text : Text) (c : Cursor) : Lexer :=
  { start ('"' :: tail) with
    cursor := c
    tokens := #[.scalar text false]
    keys := [(0, ⟨0, false, Cursor.start ('"' :: tail)⟩)]
    keyAllowed := false }

theorem isFree_afterScalar {tail : Text} {c : Cursor} : (afterScalar tail text c).IsFree :=
  fun _ hp => List.mem_singleton.mp hp ▸ rfl

theorem step_start {tail : Text} {c : Cursor}
    (h : quotedScalar true (Cursor.start ('"' :: tail)) = .ok (text, c)) :
    (start ('"' :: tail)).step = .ok (afterScalar tail text c) := by
  have hread : (start ('"' :: tail)).quoted true = .ok (afterScalar tail text c) := by
    unfold quoted keyLike
    change ((quotedScalar true (Cursor.start ('"' :: tail)) >>= _) >>= _) = _
    rw [h]
    rfl
  exact hread

theorem release_append (l : Lexer) :
    l.release.1 ++ l.release.2.tokens.toList = l.tokens.toList := by
  have htake (n : Nat) : (l.tokens.take n).toList = l.tokens.toList.take n := by simp
  have hdrop (n : Nat) : (l.tokens.drop n).toList = l.tokens.toList.drop n := by
    simp [List.take_of_length_le]
  change (l.tokens.take _).toList ++ (l.tokens.drop _).toList = _
  rw [htake, hdrop, List.take_append_drop]

theorem run_at_end (hrest : l.cursor.rest = []) (hindent : l.indent = -1) (hfree : l.IsFree)
    (done : List Token) (fuel : Nat) :
    run (fuel + 1) done l = ⟨done.reverse ++ l.tokens.toList, none⟩ := by
  obtain ⟨l', hstep, htokens⟩ := step_at_end hrest hindent hfree
  simp only [run, hrest, hstep, htokens]
  rfl

/-- Before the end, what a step finds is passed on as far as it is settled. -/
theorem run_of_step {next : Lexer} (hrest : l.cursor.rest ≠ []) (hstep : l.step = .ok next)
    (hfree : next.IsFree) (done : List Token) (fuel : Nat) :
    run (fuel + 1) done l =
      run fuel (next.withoutStaleKeys.release.1.reverse ++ done)
        next.withoutStaleKeys.release.2 := by
  have hlast : l.cursor.rest.isEmpty = false := List.isEmpty_eq_false_iff.mpr hrest
  simp only [run, hlast, hstep, hfree.dropStaleKeys?, reduceIte, Bool.false_eq_true]

end Lexer

theorem isAllowed_flatten (h : List.Forall₂ Spells text pieces) :
    pieces.flatten.all isAllowed = true := by
  induction h with
  | nil => rfl
  | cons hfirst _ ih =>
    rw [List.flatten_cons, List.all_append, ih, List.all_eq_true.mpr hfirst.isAllowed]
    rfl

/-- A text in double quotes is one token. -/
theorem ofText_of_forall₂ (h : List.Forall₂ Spells text pieces) :
    TokenStream.ofText ('"' :: (pieces.flatten ++ ['"'])) = ⟨[.scalar text false], none⟩ := by
  have hallowed : ('"' :: (pieces.flatten ++ ['"'])).all isAllowed = true := by
    rw [List.all_cons, List.all_append, isAllowed_flatten h]
    rfl
  obtain ⟨c, hc, hscalar⟩ :=
    quotedScalar_eq (c := .start ('"' :: (pieces.flatten ++ ['"']))) h rfl
  have hnil := List.cons_ne_nil '"' (pieces.flatten ++ ['"'])
  have hstep := Lexer.step_start hscalar
  set l := Lexer.afterScalar (pieces.flatten ++ ['"']) text c
  have hfree : l.IsFree := Lexer.isFree_afterScalar
  have hend := Lexer.run_at_end (l := l.withoutStaleKeys.release.2) hc rfl
    hfree.withoutStaleKeys
  rw [TokenStream.ofText, if_pos hallowed, Lexer.run_of_step hnil hstep hfree, hend,
    List.append_nil, List.reverse_reverse, Lexer.release_append]
  rfl

/-! ### Values -/

theorem graph_of_scalar {source : Text}
    (h : TokenStream.ofText source = ⟨[.scalar text false], none⟩) :
    Graph.ofText source = .ok (some ⟨.present, #[⟨.string, .scalar text⟩], 0⟩) := by
  rw [Graph.ofText, h]
  rfl

theorem run_of_scalar (text : Text) :
    (Builder.run ⟨.present, #[⟨.string, .scalar text⟩], 0⟩).map
      (fun result => result.1.bind result.2.built?) = .ok (some (.atom (.string text))) := by
  have hdepth : Builder.depth ⟨.present, #[⟨.string, .scalar text⟩], 0⟩ = 10 := rfl
  simp only [Builder.run, hdepth, Builder.build, Builder.make]
  rfl

theorem ofPart_of_atom {b : Builder} {part : Part} {a : Atom}
    (h : part.bind b.built? = some (.atom a)) (depth : Nat) :
    Value.ofPart b depth part = .atom a := by
  cases depth with
  | zero => rw [Value.ofPart_zero b (fun _ => .other), h]; rfl
  | succ depth => rw [Value.ofPart_succ, h]; rfl

/-- **A text in double quotes is loaded as the text**, however its characters are written. -/
theorem load_of_forall₂ (h : List.Forall₂ Spells text pieces) (depth : Nat) :
    load depth ('"' :: (pieces.flatten ++ ['"'])) = .ok (.atom (.string text)) := by
  have hrun := run_of_scalar text
  rw [load, read_of_graph (graph_of_scalar (ofText_of_forall₂ h))]
  cases hbuilt : Builder.run ⟨.present, #[⟨.string, .scalar text⟩], 0⟩ with
  | error fault => rw [hbuilt] at hrun; cases hrun
  | ok result =>
    rw [hbuilt] at hrun
    exact congrArg Except.ok (ofPart_of_atom (Except.ok.inj hrun) depth)

/-! ### Every text -/

theorem length_hexFigures (width n : Nat) : (Text.hexFigures width n).length = width := by
  induction width generalizing n with
  | zero => rfl
  | succ width ih => rw [Text.hexFigures, List.length_append, ih]; rfl

theorem digitChar_hex : ∀ d < 16,
    Text.isHexFigure (Nat.digitChar d) = true ∧ Text.hexValue (Nat.digitChar d) = d := by decide

theorem isHexFigure_hexFigures (width n : Nat) :
    (Text.hexFigures width n).all Text.isHexFigure = true := by
  induction width generalizing n with
  | zero => rfl
  | succ width ih =>
    rw [Text.hexFigures, List.all_append, ih, List.all_cons,
      (digitChar_hex _ (Nat.mod_lt n (by decide))).1]
    rfl

theorem hexNumber_hexFigures {width n : Nat} (h : n < 16 ^ width) :
    hexNumber (Text.hexFigures width n) = n := by
  unfold hexNumber
  induction width generalizing n with
  | zero => exact (Nat.lt_one_iff.mp h).symm
  | succ width ih =>
    have hdiv : n / 16 < 16 ^ width := by
      rw [Nat.pow_succ, Nat.mul_comm] at h
      exact Nat.div_lt_of_lt_mul h
    rw [Text.hexFigures, List.foldl_append, ih hdiv, List.foldl_cons, List.foldl_nil,
      (digitChar_hex _ (Nat.mod_lt n (by decide))).2]
    exact Nat.div_add_mod n 16

/-- Every character can be written by its number. -/
theorem spells_code (c : Char) : Spells c ('\\' :: 'U' :: Text.hexFigures 8 c.toNat) := by
  have hlt : c.toNat < 16 ^ 8 := by
    have h := CodeUnit.toNat_cases c
    omega
  refine .code ?_ (isHexFigure_hexFigures 8 _) (hexNumber_hexFigures hlt)
  rw [length_hexFigures]
  rfl

/-- **Every text can be written.** -/
theorem exists_load_eq (text : Text) :
    ∃ source, ∀ depth, load depth source = .ok (.atom (.string text)) := by
  have h : List.Forall₂ Spells text
      (text.map fun c => '\\' :: 'U' :: Text.hexFigures 8 c.toNat) :=
    List.forall₂_map_right_iff.mpr (List.forall₂_same.mpr fun c _ => spells_code c)
  exact ⟨_, load_of_forall₂ h⟩

end

end Yaml

end ComposeLint
