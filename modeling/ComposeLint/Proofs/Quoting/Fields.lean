import ComposeLint.Proofs.Fields
import ComposeLint.Proofs.Quoting.Document

/-! # Fields that quotes reach

What a field is given by its child, with quotes around a word of it. The readers of values and
entries take the quotes off, so nothing is changed there, nor by a key that is read without its
quotes. Where the name of a key is taken as it is, the names grow by the quotes, and no order of
them makes up for that (`Requoting.IsKey.totalSize_found_lt`). -/

namespace ComposeLint

/-! ## Pieces between commas -/

namespace Text

theorem pieces_nil : pieces [] = [] := by decide

theorem pieces_append_of_getLast? {front : Text} (h : front.getLast?.all (· == ',') = true)
    (t : Text) : pieces (front ++ t) = pieces front ++ pieces t := by
  cases front using List.reverseRecOn with
  | nil => rw [pieces_nil, List.nil_append, List.nil_append]
  | append_singleton front c =>
    obtain rfl : c = ',' := by simpa using h
    rw [List.append_assoc, List.singleton_append, pieces_append_cons, pieces_append_cons, pieces_nil,
      List.append_nil]

theorem pieces_append_of_head? {back : Text} (h : back.head?.all (· == ',') = true) (t : Text) :
    pieces (t ++ back) = pieces t ++ pieces back := by
  cases back with
  | nil => rw [pieces_nil, List.append_nil, List.append_nil]
  | cons c back =>
    obtain rfl : c = ',' := by simpa using h
    have hback : pieces (',' :: back) = pieces back := pieces_append_cons [] back
    rw [pieces_append_cons, hback]

/-- A spelling between commas and blanks is a piece. -/
theorem Spelling.pieces_between {w t : Text} (hw : w.IsWord) (h : Spelling w t)
    {front pad pad' back : Text} (hpad : ∀ c ∈ pad, isBlank c = true)
    (hpad' : ∀ c ∈ pad', isBlank c = true) (hfront : front.getLast?.all (· == ',') = true)
    (hback : back.head?.all (· == ',') = true) :
    pieces (front ++ pad ++ (t ++ (pad' ++ back))) = front.pieces ++ t :: back.pieces := by
  have hassoc : front ++ pad ++ (t ++ (pad' ++ back)) = front ++ (pad ++ (t ++ pad') ++ back) := by
    simp
  have hcomma : ',' ∉ pad ++ (t ++ pad') := by
    have hblank {b : Text} (hb : ∀ c ∈ b, isBlank c = true) : ',' ∉ b := fun hmem =>
      Bool.false_ne_true (hb ',' hmem)
    simp [hblank hpad, hblank hpad', h.not_mem hw (c := ',') (by decide)]
  have htrim : trim (pad ++ (t ++ pad')) = t := by
    rw [trim_blank_append hpad, ← trim_trimEnd, trimEnd, dropEndWhile_append hpad', ← trimEnd,
      trim_trimEnd, h.trim_eq hw]
  rw [hassoc, pieces_append_of_getLast? hfront, pieces_append_of_head? hback,
    pieces_one hcomma (by rw [htrim]; exact h.ne_nil hw), htrim, List.singleton_append]

end Text

namespace Block

/-! ## Blocks over changed lines -/

theorem bareEntries_of_isFlowList {b : Block} (h : b.isFlowList = true) : b.bareEntries =
    (Text.pieces (b.value.drop 1).dropLast).map fun part =>
      (b.header.number, part.isEmpty, part.unquote) := by
  rw [bareEntries, entries, if_pos h, List.map_map]
  rfl

theorem bareEntries_of_value {b : Block} {inside : Text} (h : b.value = '[' :: (inside ++ [']'])) :
    b.bareEntries = inside.pieces.map fun part =>
      (b.header.number, part.isEmpty, part.unquote) := by
  rw [bareEntries, entries_of_value h, List.map_map]
  rfl

theorem bareEntries_of_not_isFlowList {b : Block} (h : b.isFlowList = false) : b.bareEntries =
    (b.body.filter (isItemAt b.childIndent?)).map fun l =>
      (l.number, l.item.isEmpty, l.item.unquote) := by
  rw [bareEntries, entries, h, if_neg Bool.false_ne_true, List.map_map]
  rfl

section
variable {f : Line → Line} (h : ∀ l, (f l).SameShape l)
variable (hnumber : ∀ l, (f l).number = l.number)
include h hnumber

/-- Entries are the same if the header is and items are read the same. -/
theorem bareEntries_withLines {c : Block} (hheader : f c.header = c.header)
    (hitem : ∀ l, ((f l).item.isEmpty, (f l).item.unquote) = (l.item.isEmpty, l.item.unquote)) :
    (c.withLines f).bareEntries = c.bareEntries := by
  have hvalue : (c.withLines f).value = c.value := congrArg Line.value hheader
  have hflow : (c.withLines f).isFlowList = c.isFlowList := by rw [isFlowList, hvalue, isFlowList]
  cases hlist : c.isFlowList with
  | true =>
    rw [bareEntries_of_isFlowList (hflow.trans hlist), bareEntries_of_isFlowList hlist, hvalue,
      withLines_header, hheader]
  | false =>
    rw [bareEntries_of_not_isFlowList (hflow.trans hlist), bareEntries_of_not_isFlowList hlist,
      itemsBelow_withLines h, List.map_map]
    exact List.map_congr_left fun l _ => Prod.ext (hnumber l) (hitem l)

variable (hkey : ∀ l, (f l).key? = l.key?)
variable (hvalue : ∀ l, (f l).value.unquote = l.value.unquote)
include hkey hvalue

omit hnumber in
theorem scalar?_withLines (b : Block) (key : Text) :
    (b.withLines f).scalar? key = b.scalar? key := by
  rw [scalar?, child?_withLines h b (fun l _ => hkey l), scalar?, Option.bind_map]
  exact congrArg _ (funext fun c => congrArg Text.nonempty? (hvalue c.header))

/-- Below its header a child may change whatever is read off lines without their quotes. -/
theorem givesAs_below {c : Block} {key : Text} (hheader : f c.header = c.header)
    (hitem : ∀ l, ((f l).item.isEmpty, (f l).item.unquote) = (l.item.isEmpty, l.item.unquote))
    (hparts : key = "command".toList → ∀ l, commandPart? (f l) = commandPart? l) :
    GivesAs id key (c.withLines f) c := by
  have hwhole : (c.withLines f).value = c.value := congrArg Line.value hheader
  have hflow : (c.withLines f).isFlowList = c.isFlowList := by rw [isFlowList, hwhole, isFlowList]
  have hkeyed {α : Type} {ofKey : Block → Option α}
      (hread : ∀ d ∈ c.childBlocks, ofKey (d.withLines f) = ofKey d) :
      (c.withLines f).keyed ofKey = placed id (c.keyed ofKey) := keyed_withLines h hnumber hread
  exact {
    entries := (bareEntries_withLines h hnumber hheader hitem).trans (placed_id _).symm
    scalar := fun _ => by rw [hwhole]
    command := fun hcommand => {
      isFlowList := hflow
      isEmpty := by rw [hwhole]
      isScalarHeader := by rw [hwhole]
      unquote := fun _ => by rw [hwhole]
      parts := fun _ => by
        rw [content_withLines h, List.filterMap_map]
        exact List.filterMap_congr fun l _ => hparts hcommand l }
    environment := fun _ => hkeyed fun d _ => by simp [variableOfKey, hkey, hvalue]
    networks := fun _ => hkeyed fun d _ => by
      simp [attachmentOf, hkey, scalar?_withLines h hkey hvalue]
    dependsOn := fun _ => hkeyed fun d _ => by simp [hkey]
    sysctls := fun _ => hkeyed fun d _ => by simp [settingOfKey?, hkey, hvalue] }

end

/-- A child with another header gives the same if entries, scalars and commands do. -/
theorem givesAs_header {c : Block} {m : Line} {key : Text}
    (hentries : (⟨m, c.body⟩ : Block).bareEntries = c.bareEntries)
    (hscalar : key = "image".toList ∨ key = "restart".toList → m.value.unquote = c.value.unquote)
    (hcommand : (⟨m, c.body⟩ : Block).CommandsAs c) : GivesAs id key ⟨m, c.body⟩ c where
  entries := hentries.trans (placed_id _).symm
  scalar := hscalar
  command _ := hcommand
  environment _ := (placed_id _).symm
  networks _ := (placed_id _).symm
  dependsOn _ := (placed_id _).symm
  sysctls _ := (placed_id _).symm

end Block

namespace Requoting

variable {text : Text} {r : Requoting text}

/-! ## Lines -/

theorem IsItem.item_change (h : r.IsItem) (k : Line) :
    ((r.change k).item.isEmpty, (r.change k).item.unquote) = (k.item.isEmpty, k.item.unquote) := by
  refine @Line.read_replaced _ _ _ _ (fun l => (l.item.isEmpty, l.item.unquote)) fun _ => ?_
  have hitem {t : Text} (ht : Text.Spelling r.word t) :
      ((r.lineWith t).item.isEmpty, (r.lineWith t).item.unquote) = (false, r.word) := by
    rw [(h.item_eq r ht).2, ht.unquote_eq r.isWord, List.isEmpty_eq_false_iff.mpr (ht.ne_nil r.isWord)]
  exact (hitem r.spelling_quoted).trans (hitem r.spelling_word).symm

/-- A line that is no item has none, with quotes or without. -/
theorem item_change (hkind : r.quoted.SameKind r.line) (hitem : r.line.isListItem = false) (k : Line) :
    ((r.change k).item.isEmpty, (r.change k).item.unquote) = (k.item.isEmpty, k.item.unquote) := by
  refine @Line.read_replaced _ _ _ _ (fun l => (l.item.isEmpty, l.item.unquote)) fun _ => ?_
  have hnone {l : Line} (hl : l.isListItem = false) : l.item = [] := by
    rw [Line.item, hl, if_neg Bool.false_ne_true]
  rw [hnone (hkind.isListItem.trans hitem), hnone hitem]

theorem IsItem.key?_change (h : r.IsItem) (k : Line) : (r.change k).key? = k.key? :=
  Line.read_replaced fun _ => by
    rw [Line.key?, quoted, (h.item_eq r r.spelling_quoted).1, Line.key?, line,
      (h.item_eq r r.spelling_word).1]

theorem IsItem.value_change (h : r.IsItem) (k : Line) : (r.change k).value = k.value :=
  Line.read_replaced fun _ => by
    rw [Line.value, Line.value?, quoted, (h.item_eq r r.spelling_quoted).1, Line.value, Line.value?,
      line, (h.item_eq r r.spelling_word).1]

theorem IsItem.commandPart?_change (h : r.IsItem) (k : Line) :
    Block.commandPart? (r.change k) = Block.commandPart? k := by
  refine Line.read_replaced fun _ => ?_
  have hpart {t : Text} (ht : Text.Spelling r.word t) :
      Block.commandPart? (r.lineWith t) = some r.word := by
    obtain ⟨hrole, hitem⟩ := h.item_eq r ht
    have hfree : (r.lineWith t).inScalar = false := rfl
    rw [Block.commandPart?, hfree, if_neg Bool.false_ne_true,
      if_pos (Line.isListItem_of_role hrole), hitem, Text.nonempty?,
      List.isEmpty_eq_false_iff.mpr (ht.ne_nil r.isWord), if_neg Bool.false_ne_true, Option.map_some,
      ht.unquote_eq r.isWord]
  exact (hpart r.spelling_quoted).trans (hpart r.spelling_word).symm

theorem IsValue.key?_change (h : r.IsValue) (k : Line) : (r.change k).key? = k.key? :=
  Line.read_replaced fun _ => by
    obtain ⟨key, hrole⟩ := h.exists_role
    rw [quoted, Line.key?_of_role (hrole _ r.spelling_quoted), line,
      Line.key?_of_role (hrole _ r.spelling_word)]

theorem IsValue.value_line (h : r.IsValue) : r.line.value = r.word := by
  obtain ⟨key, hrole⟩ := h.exists_role
  exact Line.value_of_role (hrole _ r.spelling_word)

theorem IsValue.value_quoted (h : r.IsValue) : r.quoted.value = r.quote.around r.word := by
  obtain ⟨key, hrole⟩ := h.exists_role
  exact Line.value_of_role (hrole _ r.spelling_quoted)

theorem IsValue.unquote_change (h : r.IsValue) (k : Line) :
    (r.change k).value.unquote = k.value.unquote :=
  @Line.read_replaced _ _ _ _ (fun l => l.value.unquote) fun _ => by
    rw [h.value_quoted, h.value_line, r.spelling_quoted.unquote_eq r.isWord,
      r.spelling_word.unquote_eq r.isWord]

theorem IsPiece.key?_change (h : r.IsPiece) (k : Line) : (r.change k).key? = k.key? :=
  Line.read_replaced fun _ => by
    obtain ⟨key, front, pad, back, pad', hrole, -⟩ := h.exists_role
    rw [quoted, Line.key?_of_role (hrole _ r.spelling_quoted), line,
      Line.key?_of_role (hrole _ r.spelling_word)]

/-! ## Children that give the same -/

section Header

variable {c : Block} (hc : c.header = r.line)
include hc

/-- A spelling is no list and no header of a scalar. -/
theorem IsValue.givesAs (h : r.IsValue) (key : Text) :
    Block.GivesAs id key ⟨r.quoted, c.body⟩ c := by
  have hvalue : c.value = r.word := by rw [Block.value, hc, h.value_line]
  have hflow {b : Block} {t : Text} (hb : b.value = t) (ht : Text.Spelling r.word t) :
      b.isFlowList = false := by
    obtain ⟨d, rest, rfl, hd⟩ := ht.exists_cons r.isWord
    simp [Block.isFlowList, hb, Text.ne_of_class hd (d := '[') (by decide)]
  have hquoted : (⟨r.quoted, c.body⟩ : Block).value = r.quote.around r.word := h.value_quoted
  have hscalar : (⟨r.quoted, c.body⟩ : Block).value.unquote = c.value.unquote := by
    rw [hquoted, hvalue, r.spelling_quoted.unquote_eq r.isWord, r.spelling_word.unquote_eq r.isWord]
  have hfull {t : Text} (ht : Text.Spelling r.word t) : t.isEmpty = false :=
    List.isEmpty_eq_false_iff.mpr (ht.ne_nil r.isWord)
  refine Block.givesAs_header ?_ (fun _ => hscalar) ?_
  · rw [Block.bareEntries_of_not_isFlowList (hflow hquoted r.spelling_quoted),
      Block.bareEntries_of_not_isFlowList (hflow hvalue r.spelling_word)]
    rfl
  · exact {
      isFlowList := (hflow hquoted r.spelling_quoted).trans (hflow hvalue r.spelling_word).symm
      isEmpty := by rw [hquoted, hvalue, hfull r.spelling_quoted, hfull r.spelling_word]
      isScalarHeader := by
        rw [hquoted, hvalue, r.spelling_quoted.isScalarHeader_eq_false r.isWord,
          r.spelling_word.isScalarHeader_eq_false r.isWord]
      unquote := fun _ => hscalar
      parts := fun hbelow => by
        simp [Block.isReadBelow, hvalue, hfull r.spelling_word,
          r.spelling_word.isScalarHeader_eq_false r.isWord] at hbelow }

/-- Between brackets the word is one piece, with its quotes or without. -/
theorem IsPiece.givesAs (h : r.IsPiece) {key : Text}
    (hkey : ¬(key = "image".toList ∨ key = "restart".toList)) :
    Block.GivesAs id key ⟨r.quoted, c.body⟩ c := by
  obtain ⟨name, front, pad, back, pad', hrole, hpad, hpad', hfront, hback⟩ := h.exists_role
  let inside (t : Text) : Text := front ++ pad ++ (t ++ (pad' ++ back))
  have hvalue : c.value = '[' :: (inside r.word ++ [']']) := by
    rw [Block.value, hc]
    exact Line.value_of_role (hrole _ r.spelling_word)
  have hquoted : (⟨r.quoted, c.body⟩ : Block).value =
      '[' :: (inside (r.quote.around r.word) ++ [']']) :=
    Line.value_of_role (hrole _ r.spelling_quoted)
  have hpieces {b : Block} {t : Text} (hb : b.value = '[' :: (inside t ++ [']']))
      (ht : Text.Spelling r.word t) : b.bareEntries =
        ((Text.pieces front).map fun part => (b.header.number, part.isEmpty, part.unquote)) ++
          (b.header.number, false, r.word) ::
            (Text.pieces back).map fun part => (b.header.number, part.isEmpty, part.unquote) := by
    rw [Block.bareEntries_of_value hb, ht.pieces_between r.isWord hpad hpad' hfront hback,
      List.map_append, List.map_cons, ht.unquote_eq r.isWord,
      List.isEmpty_eq_false_iff.mpr (ht.ne_nil r.isWord)]
  have hflow := Block.isFlowList_of_value hvalue
  refine Block.givesAs_header ?_ (fun h => absurd h hkey) ?_
  · rw [hpieces hquoted r.spelling_quoted, hpieces hvalue r.spelling_word, hc]
    rfl
  · exact {
      isFlowList := (Block.isFlowList_of_value hquoted).trans hflow.symm
      isEmpty := by rw [hquoted, hvalue]; rfl
      isScalarHeader := by rw [hquoted, hvalue]; rfl
      unquote := fun hnone => absurd (hflow.symm.trans hnone) (by decide)
      parts := fun hbelow => by simp [Block.isReadBelow, hflow] at hbelow }

end Header

section Below

variable {c : Block} {key : Text}
variable (hshape : ∀ k, (r.change k).SameShape k) (hheader : c.header ≠ r.line)
include hshape hheader

theorem IsItem.givesAs (h : r.IsItem) : Block.GivesAs id key (c.withLines r.change) c :=
  Block.givesAs_below hshape r.number_change h.key?_change (fun k => by rw [h.value_change k])
    (r.change_of_ne hheader) h.item_change fun _ => h.commandPart?_change

/-- The value of a key below the header of any field but a command. -/
theorem IsValue.givesAs_below (h : r.IsValue) (hkey : key ≠ "command".toList) :
    Block.GivesAs id key (c.withLines r.change) c := by
  obtain ⟨name, hrole⟩ := h.exists_role
  have hitem := Line.isListItem_eq_false_of_role (hrole _ r.spelling_word)
  exact Block.givesAs_below hshape r.number_change h.key?_change h.unquote_change
    (r.change_of_ne hheader) (item_change h.sameKind hitem) fun h => absurd h hkey

end Below

/-! ## Keys -/

namespace IsKey

variable (h : r.IsKey) (hkey : r.line.isMappingKey = true)
include h hkey

theorem key?_line : r.line.key? = some r.word := by
  obtain ⟨value, hrole⟩ := h.exists_role r hkey
  exact Line.key?_of_role (hrole _ r.spelling_word)

theorem key?_quoted : r.quoted.key? = some (r.quote.around r.word) := by
  obtain ⟨value, hrole⟩ := h.exists_role r hkey
  exact Line.key?_of_role (hrole _ r.spelling_quoted)

theorem value_change (k : Line) : (r.change k).value = k.value :=
  Line.read_replaced fun _ => by
    obtain ⟨value, hrole⟩ := h.exists_role r hkey
    rw [quoted, Line.value_of_role (hrole _ r.spelling_quoted), line,
      Line.value_of_role (hrole _ r.spelling_word)]

theorem variableOfKey_change (k : Line) :
    Block.variableOfKey (r.change k) = Block.variableOfKey k := by
  have hname : ((r.change k).key?.getD []).unquote = (k.key?.getD []).unquote :=
    @Line.read_replaced _ _ _ _ (fun l => (l.key?.getD []).unquote) fun _ => by
      rw [h.key?_quoted hkey, h.key?_line hkey, Option.getD_some, Option.getD_some,
        r.spelling_quoted.unquote_eq r.isWord, r.spelling_word.unquote_eq r.isWord]
  rw [Block.variableOfKey, hname, h.value_change hkey, Block.variableOfKey]

/-- A setting without a value is none, whatever its key. -/
theorem settingOfKey?_change (hvalue : r.line.value.unquote = []) (k : Line) :
    Block.settingOfKey? (r.change k) = Block.settingOfKey? k :=
  Line.read_replaced fun _ => by
    have hquoted := h.value_change hkey r.line
    rw [change_line] at hquoted
    have hnone {l : Line} (hl : l.value.unquote = []) : Block.settingOfKey? l = none := by
      simp [Block.settingOfKey?, hl, Text.nonempty?]
    rw [hnone (hquoted ▸ hvalue), hnone hvalue]

theorem item_change (k : Line) :
    ((r.change k).item.isEmpty, (r.change k).item.unquote) = (k.item.isEmpty, k.item.unquote) := by
  obtain ⟨value, hrole⟩ := h.exists_role r hkey
  exact Requoting.item_change (h.sameKind r hkey)
    (Line.isListItem_eq_false_of_role (hrole _ r.spelling_word)) k

section

variable (hshape : ∀ k, (r.change k).SameShape k) {c : Block} (hheader : c.header ≠ r.line)
include hshape hheader

theorem bareEntries_withLines : (c.withLines r.change).bareEntries = c.bareEntries :=
  Block.bareEntries_withLines hshape r.number_change (r.change_of_ne hheader) (h.item_change hkey)

/-- The key below the header of a field that takes it without quotes, or does not take it. -/
theorem givesAs {key : Text} (hcommand : key ≠ "command".toList) (hnetworks : key ≠ "networks".toList)
    (hdepends : key ≠ "depends_on".toList)
    (hsysctls : key = "sysctls".toList → r.line.value.unquote = []) :
    Block.GivesAs id key (c.withLines r.change) c where
  entries := (h.bareEntries_withLines hkey hshape hheader).trans (placed_id _).symm
  scalar _ := by rw [Block.value, Block.withLines_header, r.change_of_ne hheader, Block.value]
  command hc := absurd hc hcommand
  environment _ := Block.keyed_withLines hshape r.number_change fun d _ => by
    rw [Block.withLines_header, h.variableOfKey_change hkey]
  networks hn := absurd hn hnetworks
  dependsOn hd := absurd hd hdepends
  sysctls hs := Block.keyed_withLines hshape r.number_change fun d _ =>
    h.settingOfKey?_change hkey (hsysctls hs) d.header

end

end IsKey

end Requoting

/-! ## Names taken as they are -/

/-- The size of all that was found. -/
def totalSize {α : Type} (size : α → Nat) (found : List (Int × α)) : Nat :=
  (found.map fun e => size e.2).sum

section TotalSize

variable {α : Type} (size : α → Nat)

/-- The order of what was found does not add to its size. -/
theorem sum_map_mergeSort (found : List (Int × α)) (le : Int × α → Int × α → Bool) :
    (((found.mergeSort le).map (·.2)).map size).sum = totalSize size found := by
  rw [List.map_map]
  exact ((List.mergeSort_perm found le).map _).sum_eq

theorem totalSize_append (a b : List (Int × α)) :
    totalSize size (a ++ b) = totalSize size a + totalSize size b := by
  rw [totalSize, List.map_append, List.sum_append, totalSize, totalSize]

theorem totalSize_keyed (ofKey : Block → Option α) (c : Block) :
    totalSize size (c.keyed ofKey) = (c.childBlocks.map fun d => (ofKey d).elim 0 size).sum := by
  rw [Block.keyed]
  induction c.childBlocks with
  | nil => rfl
  | cons d rest ih =>
    rw [List.map_cons, List.sum_cons, ← ih, List.filterMap_cons]
    cases ofKey d with
    | none => simp
    | some value => simp [totalSize]

end TotalSize

/-- The length of the key, if the line is read. -/
def Line.nameSize (isRead : Line → Bool) (l : Line) : Nat :=
  if isRead l then (l.key?.getD []).length else 0

namespace Requoting.IsKey

variable {text : Text} {r : Requoting text} (h : r.IsKey)
include h

theorem nameSize_lt {isRead : Line → Bool} (hkey : r.line.isMappingKey = true)
    (hread : isRead r.quoted = true ∧ isRead r.line = true) :
    r.line.nameSize isRead < r.quoted.nameSize isRead := by
  rw [Line.nameSize, if_pos hread.2, Line.nameSize, if_pos hread.1, h.key?_line hkey,
    h.key?_quoted hkey, Option.getD_some, Option.getD_some, Quote.around, List.length_cons,
    List.length_append]
  omega

section

variable (hshape : ∀ k, (r.change k).SameShape k) {c : Block} (hmem : r.line ∈ c.children)
variable (hheader : c.header ≠ r.line) {α : Type} {ofText : Text → Option α}
variable {ofKey : Block → Option α}
variable (hquotes : ∀ s t : Text, s.isEmpty = t.isEmpty → s.unquote = t.unquote →
  ofText s = ofText t)
variable {size : α → Nat} {isRead : Line → Bool}
variable (hsize : ∀ d : Block, (ofKey d).elim 0 size = d.header.nameSize isRead)
variable (hread : isRead r.quoted = true ∧ isRead r.line = true)
include hshape hmem hheader hquotes hsize hread

/-- A key that is read gets longer by its quotes, and with it all that is found. -/
theorem totalSize_found_lt : totalSize size (c.found ofText ofKey) <
    totalSize size ((c.withLines r.change).found ofText ofKey) := by
  have hkey := Block.isMappingKey_of_mem_children hmem
  have hgrows := h.nameSize_lt hkey hread
  have hbare : (c.withLines r.change).bareEntries = placed id c.bareEntries :=
    (h.bareEntries_withLines hkey hshape hheader).trans (placed_id _).symm
  rw [Block.found, Block.found, Block.filterMap_entries_placed hquotes hbare, placed_id,
    totalSize_append, totalSize_append, Nat.add_lt_add_iff_left]
  refine lt_of_eq_of_lt (totalSize_keyed size ofKey c)
    (lt_of_lt_of_eq ?_ (totalSize_keyed size ofKey _).symm)
  simp only [Block.childBlocks_withLines hshape, List.map_map, Function.comp_def, hsize,
    Block.withLines_header]
  refine List.sum_lt_sum _ _ (fun d _ => ?_) ?_
  · by_cases hd : d.header = r.line
    · rw [hd, r.change_line]
      exact Nat.le_of_lt hgrows
    · rw [r.change_of_ne hd]
  · obtain ⟨d, hd, hline⟩ := List.mem_map.mp (c.children_eq ▸ hmem)
    exact ⟨d, hd, by rwa [hline, r.change_line]⟩

/-- So a field that sorts what was found reads something else. -/
theorem read_ne {le : Int × α → Int × α → Bool} {key : Text} {read : Block → List α} {a b : Block}
    (hfield : ∀ {b c : Block}, b.child? key = some c →
      read b = ((c.found ofText ofKey).mergeSort le).map (·.2))
    (ha : a.child? key = some (c.withLines r.change)) (hb : b.child? key = some c) :
    read a ≠ read b := by
  intro hsame
  have hsum := congrArg (fun values => (values.map size).sum) hsame
  rw [hfield ha, hfield hb, sum_map_mergeSort, sum_map_mergeSort] at hsum
  exact Nat.ne_of_gt (h.totalSize_found_lt hshape hmem hheader hquotes hsize hread) hsum

end

end Requoting.IsKey

end ComposeLint
