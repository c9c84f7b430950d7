import ComposeLint.File

/-!
# The octets of a text

The reader accepts exactly the octets that a text is written as, and gives that text back. It goes
octet by octet, so the argument does too: the octets that complete a character are described along
its steps, and for one character they are its written form. Everything else is an induction over the
characters of the text. So a file can be read exactly if it holds the written form of a text.
-/

namespace ComposeLint

namespace Utf8

/-- The octets that a text is written as. -/
def encode (t : Text) : List UInt8 := t.flatMap String.utf8EncodeChar

/-- Octets that complete a character, each in the range that it may have. -/
def Partial.IsCompletedBy (p : Partial) : List UInt8 → Prop
  | [] => p.owed = 0
  | b :: tail => p.owed ≠ 0 ∧ (p.least ≤ b ∧ b ≤ p.greatest) ∧ (p.add b).IsCompletedBy tail

theorem Partial.isCompletedBy_nil {p : Partial} (h : p.owed = 0) {tail : List UInt8} :
    p.IsCompletedBy tail ↔ tail = [] := by
  cases tail <;> simp [IsCompletedBy, h]

theorem Partial.isCompletedBy_cons {p : Partial} (h : p.owed ≠ 0) {tail : List UInt8} :
    p.IsCompletedBy tail ↔
      ∃ b rest, tail = b :: rest ∧ (p.least.toNat ≤ b.toNat ∧ b.toNat ≤ p.greatest.toNat) ∧
        (p.add b).IsCompletedBy rest := by
  cases tail <;> simp [IsCompletedBy, h, UInt8.le_iff_toNat_le, and_assoc]

theorem decodeFrom_of_isCompletedBy {p : Partial} {tail : List UInt8} (howed : p.owed ≠ 0)
    (h : p.IsCompletedBy tail) (rest : List UInt8) (position : Nat) :
    decodeFrom position (some p) (tail ++ rest) =
      (decodeFrom (position + tail.length) none rest).map
        (Char.ofNat (tail.foldl Partial.add p).bits :: ·) := by
  induction tail generalizing p position with
  | nil => exact absurd h howed
  | cons b tail ih =>
    obtain ⟨-, hrange, hcompleted⟩ := h
    have hposition : position + 1 + tail.length = position + (b :: tail).length := by
      rw [List.length_cons, Nat.add_assoc, Nat.add_comm 1]
    simp only [List.cons_append, decodeFrom, hrange, decide_true, Bool.and_self, if_true,
      List.foldl_cons]
    by_cases hlast : (p.add b).owed = 0
    · obtain rfl := (Partial.isCompletedBy_nil hlast).mp hcompleted
      rw [if_pos (beq_iff_eq.mpr hlast)]
      rfl
    · rw [if_neg (by simpa using hlast), ih hlast hcompleted, hposition]

theorem exists_isCompletedBy {p : Partial} {octets : List UInt8} {position : Nat} {text : Text}
    (howed : p.owed ≠ 0) (h : decodeFrom position (some p) octets = .ok text) :
    ∃ tail rest, octets = tail ++ rest ∧ p.IsCompletedBy tail := by
  induction octets generalizing p position with
  | nil => simp [decodeFrom] at h
  | cons b octets ih =>
    simp only [decodeFrom] at h
    split at h
    · have hrange : p.least ≤ b ∧ b ≤ p.greatest := by simp_all
      by_cases hlast : (p.add b).owed = 0
      · exact ⟨[b], octets, rfl, howed, hrange, hlast⟩
      · rw [if_neg (by simpa using hlast)] at h
        obtain ⟨tail, rest, rfl, hcompleted⟩ := ih hlast h
        exact ⟨b :: tail, rest, rfl, howed, hrange, hcompleted⟩
    · exact absurd h (by simp)

/-! ## The written form of a character, by how many octets it takes -/

theorem ofNat_eq_iff {n : Nat} {b : UInt8} : UInt8.ofNat n = b ↔ n % 256 = b.toNat := by
  rw [← UInt8.toNat_inj, UInt8.toNat_ofNat']

theorem toNat_ofNat_of_isValidChar {n : Nat} (h : n.isValidChar) : (Char.ofNat n).toNat = n := by
  rw [Char.ofNat, dif_pos h]
  rfl

theorem encodeChar_of_one {b : UInt8} (h : b.toNat < 0x80) :
    String.utf8EncodeChar (Char.ofNat b.toNat) = [b] := by
  have hchar := toNat_ofNat_of_isValidChar (.inl (by omega) : b.toNat.isValidChar)
  rw [String.utf8EncodeChar, if_pos (by rw [← Char.toNat, hchar]; omega), ← Char.toNat, hchar,
    UInt8.ofNat_toNat]

theorem encodeChar_of_two {c : Char} (h : 0x80 ≤ c.toNat ∧ c.toNat < 0x800) :
    String.utf8EncodeChar c =
      [UInt8.ofNat (0xC0 + c.toNat / 64), UInt8.ofNat (0x80 + c.toNat % 64)] := by
  change 0x80 ≤ c.val.toNat ∧ c.val.toNat < 0x800 at h
  rw [String.utf8EncodeChar, if_neg (by omega), if_pos (by omega)]
  simp only [List.cons.injEq, ofNat_eq_iff, UInt8.toNat_ofNat', Char.toNat, and_true]
  omega

theorem encodeChar_of_three {c : Char} (h : 0x800 ≤ c.toNat ∧ c.toNat < 0x10000) :
    String.utf8EncodeChar c =
      [UInt8.ofNat (0xE0 + c.toNat / 4096), UInt8.ofNat (0x80 + c.toNat / 64 % 64),
        UInt8.ofNat (0x80 + c.toNat % 64)] := by
  change 0x800 ≤ c.val.toNat ∧ c.val.toNat < 0x10000 at h
  rw [String.utf8EncodeChar, if_neg (by omega), if_neg (by omega), if_pos (by omega)]
  simp only [List.cons.injEq, ofNat_eq_iff, UInt8.toNat_ofNat', Char.toNat, and_true]
  omega

theorem encodeChar_of_four {c : Char} (h : 0x10000 ≤ c.toNat) :
    String.utf8EncodeChar c =
      [UInt8.ofNat (0xF0 + c.toNat / 262144), UInt8.ofNat (0x80 + c.toNat / 4096 % 64),
        UInt8.ofNat (0x80 + c.toNat / 64 % 64), UInt8.ofNat (0x80 + c.toNat % 64)] := by
  have := c.valid
  change 0x10000 ≤ c.val.toNat at h
  rw [String.utf8EncodeChar, if_neg (by omega), if_neg (by omega), if_neg (by omega)]
  simp only [List.cons.injEq, ofNat_eq_iff, UInt8.toNat_ofNat', Char.toNat, and_true]
  omega

/-! ## The character that an octet begins -/

theorem begin?_of_two {b : UInt8} (position : Nat) (h : 0xC2 ≤ b.toNat ∧ b.toNat ≤ 0xDF) :
    begin? b position = some
      { first := b, position, taken := 1, bits := b.toNat - 0xC0, owed := 1, least := 0x80,
        greatest := 0xBF } := by
  simp [begin?, h]

theorem begin?_of_three {b : UInt8} (position : Nat) (h : 0xE0 ≤ b.toNat ∧ b.toNat ≤ 0xEF) :
    begin? b position = some
      { first := b, position, taken := 1, bits := b.toNat - 0xE0, owed := 2,
        least := if b.toNat = 0xE0 then 0xA0 else 0x80,
        greatest := if b.toNat = 0xED then 0x9F else 0xBF } := by
  grind [begin?]

theorem begin?_of_four {b : UInt8} (position : Nat) (h : 0xF0 ≤ b.toNat ∧ b.toNat ≤ 0xF4) :
    begin? b position = some
      { first := b, position, taken := 1, bits := b.toNat - 0xF0, owed := 3,
        least := if b.toNat = 0xF0 then 0x90 else 0x80,
        greatest := if b.toNat = 0xF4 then 0x8F else 0xBF } := by
  grind [begin?]

theorem range_of_begin? {b : UInt8} {position : Nat} {p : Partial}
    (h : begin? b position = some p) :
    (0xC2 ≤ b.toNat ∧ b.toNat ≤ 0xDF) ∨ (0xE0 ≤ b.toNat ∧ b.toNat ≤ 0xEF) ∨
      (0xF0 ≤ b.toNat ∧ b.toNat ≤ 0xF4) := by
  grind [begin?]

theorem owed_ne_zero {b : UInt8} {position : Nat} {p : Partial}
    (h : begin? b position = some p) : p.owed ≠ 0 := by
  grind [begin?]

/-- An octet that may stand inside a character. -/
def IsInner (b : UInt8) : Prop := 0x80 ≤ b.toNat ∧ b.toNat ≤ 0xBF

theorem isCompletedBy_of_two {b : UInt8} {position : Nat} {p : Partial} {tail : List UInt8}
    (hb : 0xC2 ≤ b.toNat ∧ b.toNat ≤ 0xDF) (hbegin : begin? b position = some p) :
    p.IsCompletedBy tail ↔ ∃ x, tail = [x] ∧ IsInner x := by
  obtain rfl := Option.some.inj (begin?_of_two position hb ▸ hbegin)
  simp [Partial.isCompletedBy_cons, Partial.isCompletedBy_nil, Partial.add, IsInner]

theorem isCompletedBy_of_three {b : UInt8} {position : Nat} {p : Partial} {tail : List UInt8}
    (hb : 0xE0 ≤ b.toNat ∧ b.toNat ≤ 0xEF) (hbegin : begin? b position = some p) :
    p.IsCompletedBy tail ↔
      ∃ x y, tail = [x, y] ∧ IsInner x ∧ (b.toNat = 0xE0 → 0xA0 ≤ x.toNat) ∧
        (b.toNat = 0xED → x.toNat ≤ 0x9F) ∧ IsInner y := by
  obtain rfl := Option.some.inj (begin?_of_three position hb ▸ hbegin)
  simp [Partial.isCompletedBy_cons, Partial.isCompletedBy_nil, Partial.add, IsInner,
    apply_ite UInt8.toNat]
  grind

theorem isCompletedBy_of_four {b : UInt8} {position : Nat} {p : Partial} {tail : List UInt8}
    (hb : 0xF0 ≤ b.toNat ∧ b.toNat ≤ 0xF4) (hbegin : begin? b position = some p) :
    p.IsCompletedBy tail ↔
      ∃ x y z, tail = [x, y, z] ∧ IsInner x ∧ (b.toNat = 0xF0 → 0x90 ≤ x.toNat) ∧
        (b.toNat = 0xF4 → x.toNat ≤ 0x8F) ∧ IsInner y ∧ IsInner z := by
  obtain rfl := Option.some.inj (begin?_of_four position hb ▸ hbegin)
  simp [Partial.isCompletedBy_cons, Partial.isCompletedBy_nil, Partial.add, IsInner,
    apply_ite UInt8.toNat]
  grind

/-- An octet that begins a character and the octets that complete it are the written form of that
character. -/
theorem encodeChar_of_isCompletedBy {b : UInt8} {position : Nat} {p : Partial} {tail : List UInt8}
    (hbegin : begin? b position = some p) (h : p.IsCompletedBy tail) :
    String.utf8EncodeChar (Char.ofNat (tail.foldl Partial.add p).bits) = b :: tail := by
  rcases range_of_begin? hbegin with hb | hb | hb
  · obtain ⟨x, rfl, hx⟩ := (isCompletedBy_of_two hb hbegin).mp h
    obtain rfl := Option.some.inj (begin?_of_two position hb ▸ hbegin)
    simp only [List.foldl, Partial.add, IsInner] at hx ⊢
    generalize hn : (b.toNat - 0xC0) * 64 + (x.toNat - 0x80) = n
    have hchar : (Char.ofNat n).toNat = n := toNat_ofNat_of_isValidChar (.inl (by omega))
    rw [encodeChar_of_two (by omega), hchar]
    simp only [List.cons.injEq, ofNat_eq_iff, and_true]
    omega
  · obtain ⟨x, y, rfl, hx, hleast, hgreatest, hy⟩ := (isCompletedBy_of_three hb hbegin).mp h
    obtain rfl := Option.some.inj (begin?_of_three position hb ▸ hbegin)
    simp only [List.foldl, Partial.add, IsInner] at hx hy ⊢
    generalize hn : ((b.toNat - 0xE0) * 64 + (x.toNat - 0x80)) * 64 + (y.toNat - 0x80) = n
    have hvalid : n < 0xD800 ∨ 0xDFFF < n ∧ n < 0x110000 := by omega
    have hchar : (Char.ofNat n).toNat = n := toNat_ofNat_of_isValidChar hvalid
    rw [encodeChar_of_three (by omega), hchar]
    simp only [List.cons.injEq, ofNat_eq_iff, and_true]
    omega
  · obtain ⟨x, y, z, rfl, hx, hleast, hgreatest, hy, hz⟩ := (isCompletedBy_of_four hb hbegin).mp h
    obtain rfl := Option.some.inj (begin?_of_four position hb ▸ hbegin)
    simp only [List.foldl, Partial.add, IsInner] at hx hy hz ⊢
    generalize hn : (((b.toNat - 0xF0) * 64 + (x.toNat - 0x80)) * 64 + (y.toNat - 0x80)) * 64 +
      (z.toNat - 0x80) = n
    have hvalid : n < 0xD800 ∨ 0xDFFF < n ∧ n < 0x110000 := by omega
    have hchar : (Char.ofNat n).toNat = n := toNat_ofNat_of_isValidChar hvalid
    rw [encodeChar_of_four (by omega), hchar]
    simp only [List.cons.injEq, ofNat_eq_iff, and_true]
    omega

/-- Conversely, the first octet of a written character begins one that the others complete. -/
theorem exists_begin? (c : Char) (position : Nat) (h : 0x80 ≤ c.toNat) :
    ∃ b tail p, String.utf8EncodeChar c = b :: tail ∧ begin? b position = some p ∧
      p.IsCompletedBy tail ∧ (tail.foldl Partial.add p).bits = c.toNat := by
  have hvalid : c.toNat < 0xD800 ∨ 0xDFFF < c.toNat ∧ c.toNat < 0x110000 := c.valid
  by_cases htwo : c.toNat < 0x800
  · have hb : 0xC2 ≤ (UInt8.ofNat (0xC0 + c.toNat / 64)).toNat ∧
        (UInt8.ofNat (0xC0 + c.toNat / 64)).toNat ≤ 0xDF := by
      rw [UInt8.toNat_ofNat']
      omega
    have hbegin := begin?_of_two position hb
    refine ⟨_, _, _, encodeChar_of_two ⟨h, htwo⟩, hbegin,
      (isCompletedBy_of_two hb hbegin).mpr ⟨_, rfl, ?_⟩, ?_⟩
    · rw [IsInner, UInt8.toNat_ofNat']
      omega
    · simp only [List.foldl, Partial.add, UInt8.toNat_ofNat']
      omega
  by_cases hthree : c.toNat < 0x10000
  · have hb : 0xE0 ≤ (UInt8.ofNat (0xE0 + c.toNat / 4096)).toNat ∧
        (UInt8.ofNat (0xE0 + c.toNat / 4096)).toNat ≤ 0xEF := by
      rw [UInt8.toNat_ofNat']
      omega
    have hbegin := begin?_of_three position hb
    refine ⟨_, _, _, encodeChar_of_three ⟨by omega, hthree⟩, hbegin,
      (isCompletedBy_of_three hb hbegin).mpr ⟨_, _, rfl, ?_⟩, ?_⟩
    · simp only [IsInner, UInt8.toNat_ofNat']
      omega
    · simp only [List.foldl, Partial.add, UInt8.toNat_ofNat']
      omega
  · have hb : 0xF0 ≤ (UInt8.ofNat (0xF0 + c.toNat / 262144)).toNat ∧
        (UInt8.ofNat (0xF0 + c.toNat / 262144)).toNat ≤ 0xF4 := by
      rw [UInt8.toNat_ofNat']
      omega
    have hbegin := begin?_of_four position hb
    refine ⟨_, _, _, encodeChar_of_four (by omega), hbegin,
      (isCompletedBy_of_four hb hbegin).mpr ⟨_, _, _, rfl, ?_⟩, ?_⟩
    · simp only [IsInner, UInt8.toNat_ofNat']
      omega
    · simp only [List.foldl, Partial.add, UInt8.toNat_ofNat']
      omega

/-! ## A whole text -/

theorem decodeFrom_of_begin? {b : UInt8} {position : Nat} {p : Partial}
    (h : begin? b position = some p) (rest : List UInt8) :
    decodeFrom position none (b :: rest) = decodeFrom (position + 1) (some p) rest := by
  have hrange := range_of_begin? h
  have hlarge : ¬ b.toNat < 0x80 := by omega
  simp only [decodeFrom, if_neg hlarge, h]

theorem decodeFrom_encodeChar (c : Char) (rest : List UInt8) (position : Nat) :
    ∃ position', decodeFrom position none (String.utf8EncodeChar c ++ rest) =
      (decodeFrom position' none rest).map (c :: ·) := by
  by_cases hone : c.toNat < 0x80
  · have hb : (UInt8.ofNat c.toNat).toNat = c.toNat := by rw [UInt8.toNat_ofNat']; omega
    have hencode := encodeChar_of_one (b := UInt8.ofNat c.toNat) (by omega)
    rw [hb, Char.ofNat_toNat] at hencode
    exact ⟨position + 1, by simp [hencode, decodeFrom, hb, hone, Char.ofNat_toNat]⟩
  · obtain ⟨b, tail, p, hencode, hbegin, hcompleted, hbits⟩ := exists_begin? c position (by omega)
    refine ⟨position + 1 + tail.length, ?_⟩
    rw [hencode, List.cons_append, decodeFrom_of_begin? hbegin,
      decodeFrom_of_isCompletedBy (owed_ne_zero hbegin) hcompleted, hbits, Char.ofNat_toNat]

theorem exists_encodeChar {b : UInt8} {octets : List UInt8} {position : Nat} {text : Text}
    (h : decodeFrom position none (b :: octets) = .ok text) :
    ∃ c rest, b :: octets = String.utf8EncodeChar c ++ rest := by
  by_cases hone : b.toNat < 0x80
  · exact ⟨Char.ofNat b.toNat, octets, by rw [encodeChar_of_one hone]; rfl⟩
  · cases hbegin : begin? b position with
    | none => simp [decodeFrom, hone, hbegin] at h
    | some p =>
      rw [decodeFrom_of_begin? hbegin] at h
      obtain ⟨tail, rest, rfl, hcompleted⟩ := exists_isCompletedBy (owed_ne_zero hbegin) h
      exact ⟨_, rest, by rw [encodeChar_of_isCompletedBy hbegin hcompleted]; rfl⟩

theorem decodeFrom_encode (text : Text) (position : Nat) :
    decodeFrom position none (encode text) = .ok text := by
  induction text generalizing position with
  | nil => rfl
  | cons c text ih =>
    obtain ⟨position', h⟩ := decodeFrom_encodeChar c (encode text) position
    rw [encode, List.flatMap_cons, ← encode, h, ih]
    rfl

theorem eq_encode_of_decodeFrom {octets : List UInt8} {text : Text} {position : Nat}
    (h : decodeFrom position none octets = .ok text) : octets = encode text := by
  -- A character takes several octets, so the induction is on how many are left.
  induction hn : octets.length using Nat.strongRecOn generalizing octets text position with
  | ind n ih =>
    cases octets with
    | nil =>
      obtain rfl : [] = text := by simpa [decodeFrom] using h
      rfl
    | cons b octets =>
      obtain ⟨c, rest, hsplit⟩ := exists_encodeChar h
      obtain ⟨position', hrest⟩ := decodeFrom_encodeChar c rest position
      rw [hsplit, hrest] at h
      cases hmore : decodeFrom position' none rest with
      | error fault => simp [hmore, Except.map] at h
      | ok more =>
        obtain rfl : c :: more = text := by simpa [hmore, Except.map] using h
        have hshorter : rest.length < n := by
          have := List.length_pos_iff.mpr (String.utf8EncodeChar_ne_nil (c := c))
          rw [← hn, hsplit, List.length_append]
          omega
        rw [hsplit, ih _ hshorter hmore rfl]
        rfl

/-- **Octets and text.** Octets are read as a text exactly if they are its written form. -/
theorem decode_eq_ok_iff {octets : List UInt8} {text : Text} :
    decode octets = .ok text ↔ octets = encode text :=
  ⟨eq_encode_of_decodeFrom, fun h => h ▸ decodeFrom_encode text 0⟩

theorem toList_loop (octets : ByteArray) (i : Nat) (taken : List UInt8) :
    ByteArray.toList.loop octets i taken = taken.reverse ++ octets.data.toList.drop i := by
  fun_induction ByteArray.toList.loop octets i taken with
  | case1 i taken h ih =>
    have hdrop : octets.data.toList.drop i = octets.get! i :: octets.data.toList.drop (i + 1) := by
      have hi : i < octets.data.size := h
      rw [List.drop_eq_getElem_cons (by simpa using hi), Array.getElem_toList, ByteArray.get!,
        getElem!_pos octets.data i hi]
    rw [ih, hdrop, List.reverse_cons, List.append_assoc, List.singleton_append]
  | case2 i taken h =>
    have hend : octets.data.toList.length ≤ i := by simpa using Nat.le_of_not_lt h
    rw [List.drop_eq_nil_of_le hend, List.append_nil]

/-- What the library writes a text as. -/
theorem toList_toUTF8 (text : Text) : (String.ofList text).toUTF8.toList = encode text := by
  rw [String.toUTF8_eq_toByteArray, String.toByteArray_ofList, ByteArray.toList, toList_loop,
    List.utf8Encode, List.toList_data_toByteArray]
  rfl

end Utf8

namespace FileState

/-- A file whose octets are no text. -/
def IsUnreadable (f : FileState) : Prop := ∃ octets, f = .contents octets ∧ ∀ text, f ≠ .ofText text

theorem ofText_eq (text : Text) : ofText text = .contents (Utf8.encode text) := by
  rw [ofText, Utf8.toList_toUTF8]

theorem textOf_encode (text : Text) : textOf (Utf8.encode text) = .ok text.unifyBreaks := by
  rw [textOf, Utf8.decode_eq_ok_iff.mpr rfl]
  rfl

theorem read_eq_ok_iff {f : FileState} {t? : Option Text} :
    f.read = .ok t? ↔
      (f = .absent ∨ f = .directory) ∧ t? = none ∨
        ∃ text, f = ofText text ∧ t? = some text.unifyBreaks := by
  cases f with
  | absent | directory => simp [read, ofText_eq, eq_comm]
  | contents octets =>
    simp only [ofText_eq, contents.injEq, ← Utf8.decode_eq_ok_iff, read, textOf]
    cases Utf8.decode octets <;> simp [Except.map, eq_comm]

theorem read_eq_error_iff {f : FileState} : (∃ fault, f.read = .error fault) ↔ f.IsUnreadable := by
  cases f with
  | absent | directory => simp [read, IsUnreadable]
  | contents octets =>
    simp only [IsUnreadable, ofText_eq, contents.injEq, exists_eq_left', ← Utf8.decode_eq_ok_iff,
      ne_eq, read, textOf]
    cases Utf8.decode octets <;> simp [Except.map]

end FileState

end ComposeLint
