import ComposeLint.Proofs.Document.Field
import ComposeLint.Proofs.Quoting.Fields

/-! # Quotes around a word

At most places quotes around a plain word are a matter of spelling: the stack is the same without
them. They are kept at a few: as the value that makes a network external, and as the key of a network
or dependency of a service, or of a system control with a value. Everywhere else a word may be quoted
or not (`quotes_are_read_iff`). -/

namespace ComposeLint

namespace Document.Field

variable {doc : Document} (f : doc.Field)

/-- The child is the one that its key finds. -/
def IsReadAs (key : Text) : Prop := f.entry.child? key = some f.child

/-- The keys below which a scalar is read, and no list. -/
def scalarKeys : EntryKind → List Text
  | .service => ["image".toList, "restart".toList]
  | .network => ["driver".toList, "external".toList]
  | .volume => []

def IsScalar : Prop := ∃ key ∈ scalarKeys f.kind, f.child.header.key? = some key

def IsCommand : Prop := f.kind = .service ∧ f.child.header.key? = some "command".toList

variable {f}

theorem IsReadAs.key?_header {key : Text} (h : f.IsReadAs key) : f.child.header.key? = some key := by
  simpa using List.find?_some h

end Document.Field

/-- A place for a word on a line of the document: a whole item anywhere, a whole scalar or entry in
brackets beside the key of a field, a whole value or key one level below a field. Lines below a
command are parts of it, whatever they hold. -/
inductive Slot (doc : Document) (l : Line)
  | item (mem : l ∈ doc)
  | scalar (field : doc.Field) (header : field.child.header = l)
  | piece (field : doc.Field) (header : field.child.header = l) (list : ¬field.IsScalar)
  | member (field : doc.Field) (mem : l ∈ field.child.children) (mapping : ¬field.IsCommand)
  | key (field : doc.Field) (mem : l ∈ field.child.children) (mapping : ¬field.IsCommand)

namespace Slot

variable {doc : Document} {l : Line}

/-- The places at which quotes around the word are read as a part of it. -/
def KeepsQuotes (word : Text) : Slot doc l → Prop
  | .scalar f _ => f.kind = .network ∧ f.IsReadAs "external".toList ∧ word.toLower = "true".toList
  | .key f _ _ => f.kind = .service ∧ (f.IsReadAs "networks".toList ∨
      f.IsReadAs "depends_on".toList ∨ f.IsReadAs "sysctls".toList ∧ l.value.unquote ≠ [])
  | _ => False

end Slot

/-- No word between quotes is the plain one that makes a network external. -/
theorem Quote.toLower_around_ne (q : Quote) (t : Text) : (q.around t).toLower ≠ "true".toList := by
  cases q <;> simp [Quote.around, Text.toLower, Quote.char]

namespace Requoting

variable {text : Text} {r : Requoting text}

/-- The word stands as a whole at the place. -/
def Fills (r : Requoting text) : Slot (Document.ofText text) r.line → Prop
  | .item _ => r.IsItem
  | .scalar _ _ | .member _ _ _ => r.IsValue
  | .piece _ _ _ => r.IsPiece
  | .key _ _ _ => r.IsKey

/-! ## Where the line stands -/

/-- An item starts neither a section nor an entry. -/
theorem IsItem.not_starts (h : r.IsItem) :
    r.line.startsTopLevel = false ∧ r.line.startsEntry = false := by
  have hitem := Line.isListItem_of_role (h.item_eq r r.spelling_word).1
  have hletter {c : Char} (hc : Text.isLetter c = true ∧ r.line.raw.trimStart.head? = some c) :
      False := by
    have hnone := Line.isListItem_eq_false_of_letter hc.1 hc.2
    rw [line, hitem] at hnone
    cases hnone
  constructor
  · refine Bool.eq_false_iff.mpr fun htop => ?_
    obtain ⟨c, hc⟩ := Line.exists_letter_of_startsTopLevel htop
    exact hletter hc
  · refine Bool.eq_false_iff.mpr fun hentry => ?_
    obtain ⟨c, hc⟩ := Line.exists_letter_of_startsEntry hentry
    exact hletter hc

section Field

variable {f : (Document.ofText text).Field}

theorem header_ne_of_mem_children (hmem : r.line ∈ f.child.children) : f.child.header ≠ r.line :=
  fun heq => f.header_not_mem_body (heq ▸ Block.mem_body_of_mem_children hmem)

variable (hl : r.line ∈ f.child.header :: f.child.body)
include hl

theorem line_of_mem_field : r.line ∈ Document.ofText text ∧
    r.line.startsTopLevel = false ∧ r.line.startsEntry = false := by
  have hbody := Document.Field.mem_body hl
  obtain ⟨s, hs⟩ := Document.section?_of_mem_blocks f.entry_mem
  have hstarts := (Document.exists_site hs f.entry_mem).2.1 _ hbody
  exact ⟨(Document.isIn_of_mem_blocks f.entry_mem).body_sublist.mem hbody, hstarts.2, hstarts.1⟩

/-! ## One field -/

variable (hshape : ∀ k, (r.change k).SameShape k)
variable (hkeys : ∀ k ∈ f.entry.children, (r.change k).key? = k.key?)
include hshape hkeys

/-- Services are read as before if this field is. -/
theorem services_eq (hgives : f.kind = .service → ∀ key, f.IsReadAs key →
      Block.GivesAs id key (f.child.withLines r.change) f.child) :
    ∀ b ∈ (Document.ofText text).blocks .service,
      Service.ofBlock (b.withLines r.change) = Service.ofBlock b := by
  intro b hb
  by_cases hentry : EntryKind.service = f.kind ∧ b = f.entry
  · obtain ⟨hkind, rfl⟩ := hentry
    refine Service.ofBlock_withLines hshape (Document.name_of_mem_blocks_map hshape hb) hkeys
      fun key c hc => ?_
    by_cases hchild : c = f.child
    · rw [hchild] at hc ⊢
      exact hgives hkind.symm key hc
    · rw [change, Document.Field.withLines_child hl (List.mem_of_find?_eq_some hc) hchild]
      exact .refl key c
  · rw [change, Document.Field.withLines_entry hl hb hentry]

/-- Networks are read as before if the value of this field is. -/
theorem networks_eq
    (hexternal : f.kind = .network → f.IsReadAs "external".toList →
      ((r.change f.child.header).value.toLower == "true".toList) =
        (f.child.header.value.toLower == "true".toList))
    (hdriver : f.kind = .network → f.IsReadAs "driver".toList →
      (r.change f.child.header).value.unquote = f.child.header.value.unquote) :
    ∀ b ∈ (Document.ofText text).blocks .network,
      Network.ofBlock (b.withLines r.change) = Network.ofBlock b := by
  intro b hb
  by_cases hentry : EntryKind.network = f.kind ∧ b = f.entry
  · obtain ⟨hkind, rfl⟩ := hentry
    have hother {c : Block} (hc : c ∈ f.entry.childBlocks) (hne : c ≠ f.child) :
        r.change c.header = c.header :=
      congrArg Block.header (Document.Field.withLines_child hl hc hne)
    refine Network.ofBlock_withLines hshape (Document.name_of_mem_blocks_map hshape hb) hkeys
      (fun c hc => ?_) fun c hc => ?_
    · by_cases hchild : c = f.child
      · rw [hchild] at hc ⊢
        exact hexternal hkind.symm hc
      · rw [hother (List.mem_of_find?_eq_some hc) hchild]
    · by_cases hchild : c = f.child
      · rw [hchild] at hc ⊢
        exact hdriver hkind.symm hc
      · rw [hother (List.mem_of_find?_eq_some hc) hchild]
  · rw [change, Document.Field.withLines_entry hl hb hentry]

end Field

/-! ## Each place -/

/-- The header of a field is replaced, and nothing below it. -/
theorem withLines_header {f : (Document.ofText text).Field} (hc : f.child.header = r.line) :
    f.child.withLines r.change = ⟨r.quoted, f.child.body⟩ := by
  have hbody : r.line ∉ f.child.body := hc ▸ f.header_not_mem_body
  rw [Block.withLines, hc, change_line, change, Line.map_replaced_of_not_mem hbody]

/-- Below the header of a field no line is a key of the entry. -/
theorem change_of_mem_children {f : (Document.ofText text).Field}
    (hmem : r.line ∈ f.child.children) {k : Line} (hk : k ∈ f.entry.children) : r.change k = k :=
  r.change_of_ne fun heq => f.childrenFit.headerless f.child f.child_mem k hk
    (heq ▸ Block.mem_body_of_mem_children hmem)

/-- The stack does not see the quotes. -/
def Unseen (r : Requoting text) : Prop :=
  (∀ b ∈ (Document.ofText text).blocks .service,
    Service.ofBlock (b.withLines r.change) = Service.ofBlock b) ∧
  ∀ b ∈ (Document.ofText text).blocks .network,
    Network.ofBlock (b.withLines r.change) = Network.ofBlock b

section Places

variable (hshape : ∀ k, (r.change k).SameShape k)
include hshape

theorem IsItem.unseen (h : r.IsItem) : r.Unseen := by
  have hheader {b c : Block} (hc : c ∈ b.childBlocks) : c.header ≠ r.line := fun heq => by
    have hkey := Block.isMappingKey_of_mem_children (b.children_eq ▸ List.mem_map_of_mem hc)
    rw [heq, Line.isMappingKey, Line.key?, line, (h.item_eq r r.spelling_word).1] at hkey
    cases hkey
  refine ⟨fun b hb => ?_, fun b hb => ?_⟩
  · exact Service.ofBlock_withLines hshape (Document.name_of_mem_blocks_map hshape hb)
      (fun l _ => h.key?_change l) fun key c hc =>
        h.givesAs hshape (hheader (List.mem_of_find?_eq_some hc))
  · exact Network.ofBlock_withLines hshape (Document.name_of_mem_blocks_map hshape hb)
      (fun l _ => h.key?_change l) (fun c _ => by rw [h.value_change])
      fun c _ => by rw [h.value_change]

variable {f : (Document.ofText text).Field}

theorem IsValue.unseen_beside (h : r.IsValue) (hc : f.child.header = r.line)
    (hexternal : ¬(f.kind = .network ∧ f.IsReadAs "external".toList ∧
      r.word.toLower = "true".toList)) : r.Unseen := by
  have hl : r.line ∈ f.child.header :: f.child.body := hc ▸ List.mem_cons_self
  have hkeys : ∀ k ∈ f.entry.children, (r.change k).key? = k.key? := fun k _ => h.key?_change k
  refine ⟨services_eq hl hshape hkeys fun _ key _ => ?_, networks_eq hl hshape hkeys ?_ ?_⟩
  · rw [withLines_header hc]
    exact h.givesAs hc key
  · intro hkind hread
    have hword : r.word.toLower ≠ "true".toList := fun hword => hexternal ⟨hkind, hread, hword⟩
    rw [hc, change_line, h.value_quoted, h.value_line, beq_eq_false_iff_ne.mpr hword,
      beq_eq_false_iff_ne.mpr (r.quote.toLower_around_ne r.word)]
  · exact fun _ _ => h.unquote_change _

theorem IsPiece.unseen (h : r.IsPiece) (hc : f.child.header = r.line) (hlist : ¬f.IsScalar) :
    r.Unseen := by
  have hl : r.line ∈ f.child.header :: f.child.body := hc ▸ List.mem_cons_self
  have hkeys : ∀ k ∈ f.entry.children, (r.change k).key? = k.key? := fun k _ => h.key?_change k
  have hnone {key : Text} (hkey : key ∈ Document.Field.scalarKeys f.kind) : ¬f.IsReadAs key :=
    fun hread => hlist ⟨key, hkey, hread.key?_header⟩
  refine ⟨services_eq hl hshape hkeys fun hkind key hread => ?_, networks_eq hl hshape hkeys ?_ ?_⟩
  · rw [withLines_header hc]
    refine h.givesAs hc fun hkey => hnone ?_ hread
    simpa [hkind, Document.Field.scalarKeys] using hkey
  · exact fun hkind hread => absurd hread (hnone (by simp [hkind, Document.Field.scalarKeys]))
  · exact fun hkind hread => absurd hread (hnone (by simp [hkind, Document.Field.scalarKeys]))

variable (hmem : r.line ∈ f.child.children)
include hmem

/-- Below its header a network is not read. -/
theorem networks_eq_below : ∀ b ∈ (Document.ofText text).blocks .network,
    Network.ofBlock (b.withLines r.change) = Network.ofBlock b := by
  have hheader := r.change_of_ne (header_ne_of_mem_children hmem)
  have hl := List.mem_cons_of_mem f.child.header (Block.mem_body_of_mem_children hmem)
  refine networks_eq hl hshape (fun k hk => by rw [change_of_mem_children hmem hk]) ?_ ?_
  · exact fun _ _ => by rw [hheader]
  · exact fun _ _ => by rw [hheader]

theorem services_eq_below (hgives : f.kind = .service → ∀ key, f.IsReadAs key →
      Block.GivesAs id key (f.child.withLines r.change) f.child) :
    ∀ b ∈ (Document.ofText text).blocks .service,
      Service.ofBlock (b.withLines r.change) = Service.ofBlock b :=
  services_eq (List.mem_cons_of_mem _ (Block.mem_body_of_mem_children hmem)) hshape
    (fun k hk => by rw [change_of_mem_children hmem hk]) hgives

variable (hmapping : ¬f.IsCommand)
include hmapping

omit hshape hmem in
theorem ne_command_of_isReadAs (hkind : f.kind = .service) {key : Text} (hread : f.IsReadAs key) :
    key ≠ "command".toList := fun hkey => hmapping ⟨hkind, hkey ▸ hread.key?_header⟩

theorem IsValue.unseen_below (h : r.IsValue) : r.Unseen :=
  ⟨services_eq_below hshape hmem fun hkind _ hread =>
    h.givesAs_below hshape (header_ne_of_mem_children hmem)
      (ne_command_of_isReadAs hmapping hkind hread), networks_eq_below hshape hmem⟩

theorem IsKey.unseen (h : r.IsKey) (hnames : ¬(f.kind = .service ∧ (f.IsReadAs "networks".toList ∨
      f.IsReadAs "depends_on".toList ∨ f.IsReadAs "sysctls".toList ∧ r.line.value.unquote ≠ []))) :
    r.Unseen := by
  refine ⟨services_eq_below hshape hmem fun hkind key hread => ?_, networks_eq_below hshape hmem⟩
  have hnot {P : Prop} (hP : P → _) : ¬P := fun hp => hnames ⟨hkind, hP hp⟩
  refine h.givesAs (Block.isMappingKey_of_mem_children hmem) hshape
    (header_ne_of_mem_children hmem) (ne_command_of_isReadAs hmapping hkind hread) ?_ ?_ ?_
  · exact hnot fun hkey => .inl (hkey ▸ hread)
  · exact hnot fun hkey => .inr (.inl (hkey ▸ hread))
  · exact fun hkey => not_not.mp (hnot fun hvalue => .inr (.inr ⟨hkey ▸ hread, hvalue⟩))

end Places

/-! ## Places that keep quotes -/

section Kept

variable (hshape : ∀ k, (r.change k).SameShape k) {f : (Document.ofText text).Field}
include hshape

/-- The field is still found by its key. -/
theorem child?_withLines {key : Text} (hread : f.IsReadAs key)
    (hkeys : ∀ k ∈ f.entry.children, (r.change k).key? = k.key?) :
    (f.entry.withLines r.change).child? key = some (f.child.withLines r.change) := by
  rw [Block.child?_withLines hshape _ hkeys, hread, Option.map_some]

/-- A quoted word makes no network external. -/
theorem IsValue.not_unseen (h : r.IsValue) (hc : f.child.header = r.line) (hkind : f.kind = .network)
    (hread : f.IsReadAs "external".toList) (hword : r.word.toLower = "true".toList) : ¬r.Unseen := by
  intro hunseen
  have hchild := child?_withLines hshape hread fun k _ => h.key?_change k
  have hsame := congrArg Network.isExternal (hunseen.2 f.entry (hkind ▸ f.entry_mem))
  rw [Network.ofBlock, hchild, withLines_header hc, Network.ofBlock, hread] at hsame
  simp only [Option.any_some, Block.value, hc, h.value_quoted, h.value_line, hword, beq_self_eq_true,
    beq_iff_eq] at hsame
  exact r.quote.toLower_around_ne r.word hsame

variable (hmem : r.line ∈ f.child.children) (h : r.IsKey)
include hmem h

/-- The names of networks and dependencies, and of controls with a value, grow by the quotes. -/
theorem IsKey.not_unseen (hkind : f.kind = .service) (hnames : f.IsReadAs "networks".toList ∨
      f.IsReadAs "depends_on".toList ∨ f.IsReadAs "sysctls".toList ∧ r.line.value.unquote ≠ []) :
    ¬r.Unseen := by
  intro hunseen
  have hheader := header_ne_of_mem_children hmem
  have hsame := hunseen.1 f.entry (hkind ▸ f.entry_mem)
  have hchild {key : Text} (hread : f.IsReadAs key) :=
    child?_withLines hshape hread fun k hk => by rw [change_of_mem_children hmem hk]
  rcases hnames with hread | hread | ⟨hread, hvalue⟩
  · let size (a : Attachment) : Nat := a.network.length
    have hsize (d : Block) : (some (Block.attachmentOf d)).elim 0 size =
        d.header.nameSize fun _ => true := rfl
    exact h.read_ne hshape hmem hheader (fun s t hempty hunquote => by simp only [hempty, hunquote])
      hsize ⟨rfl, rfl⟩ Block.attachments_of_child? (hchild hread) hread
      (congrArg Service.networks hsame)
  · have hsize (d : Block) : (some (d.header.key?.getD [])).elim 0 List.length =
        d.header.nameSize fun _ => true := rfl
    exact h.read_ne hshape hmem hheader (fun s t hempty hunquote => by simp only [hempty, hunquote])
      hsize ⟨rfl, rfl⟩ Block.dependencies_of_child? (hchild hread) hread
      (congrArg Service.dependsOn hsame)
  · have hquoted := h.value_change (Block.isMappingKey_of_mem_children hmem) r.line
    rw [change_line] at hquoted
    let size (c : Setting) : Nat := c.key.length
    have hsize (d : Block) : (Block.settingOfKey? d.header).elim 0 size =
        d.header.nameSize fun l => !l.value.unquote.isEmpty := by
      rw [Block.settingOfKey?, Line.nameSize, Text.nonempty?]
      cases d.header.value.unquote.isEmpty <;> rfl
    exact h.read_ne hshape hmem hheader
      (fun s t _ hunquote => by simp only [Block.settingOfItem?, hunquote]) hsize
      (by simp [hquoted, hvalue]) Block.sysctls_of_child? (hchild hread) hread
      (congrArg Service.sysctls hsame)

end Kept

/-! ## The document -/

theorem Fills.sameKind {slot : Slot (Document.ofText text) r.line} (h : r.Fills slot) :
    r.quoted.SameKind r.line := by
  cases slot with
  | item => exact IsItem.sameKind r h
  | scalar => exact IsValue.sameKind r h
  | piece => exact IsPiece.sameKind r h
  | member => exact IsValue.sameKind r h
  | key f hmem => exact IsKey.sameKind r h (Block.isMappingKey_of_mem_children hmem)

theorem Fills.line_mem {slot : Slot (Document.ofText text) r.line} (h : r.Fills slot) :
    r.line ∈ Document.ofText text ∧
      r.line.startsTopLevel = false ∧ r.line.startsEntry = false := by
  have hbelow {f : (Document.ofText text).Field} (hmem : r.line ∈ f.child.children) :=
    line_of_mem_field (List.mem_cons_of_mem f.child.header (Block.mem_body_of_mem_children hmem))
  have hbeside {f : (Document.ofText text).Field} (hc : f.child.header = r.line) :=
    line_of_mem_field (hc ▸ List.mem_cons_self : r.line ∈ f.child.header :: f.child.body)
  cases slot with
  | item hmem => exact ⟨hmem, IsItem.not_starts h⟩
  | scalar f hc => exact hbeside hc
  | piece f hc => exact hbeside hc
  | member f hmem => exact hbelow hmem
  | key f hmem => exact hbelow hmem

theorem Fills.sameShape {slot : Slot (Document.ofText text) r.line} (h : r.Fills slot) :
    ∀ k, (r.change k).SameShape k := sameShape_change h.sameKind h.line_mem.2.1 h.line_mem.2.2

theorem Fills.stack_eq_iff {slot : Slot (Document.ofText text) r.line} (h : r.Fills slot) :
    Stack.read r.edited = Stack.read text ↔ r.Unseen := by
  rw [Stack.read, ofText_edited h.sameKind h.line_mem.1, Stack.read,
    Stack.ofDocument_map_eq_iff h.sameShape]
  rfl

/-- Quotes are seen just at the places that keep them. -/
theorem Fills.unseen_iff {slot : Slot (Document.ofText text) r.line} (h : r.Fills slot) :
    r.Unseen ↔ ¬slot.KeepsQuotes r.word := by
  have hshape := h.sameShape
  have hiff {keeps : Prop} (hunseen : ¬keeps → r.Unseen) (hseen : keeps → ¬r.Unseen) :
      r.Unseen ↔ ¬keeps := ⟨fun hunseen hkeeps => hseen hkeeps hunseen, hunseen⟩
  cases slot with
  | item => exact hiff (fun _ => IsItem.unseen hshape h) False.elim
  | piece f hc hlist => exact hiff (fun _ => IsPiece.unseen hshape h hc hlist) False.elim
  | member f hmem hmapping =>
    exact hiff (fun _ => IsValue.unseen_below hshape hmem hmapping h) False.elim
  | scalar f hc =>
    exact hiff (IsValue.unseen_beside hshape h hc) fun hkeeps =>
      IsValue.not_unseen hshape h hc hkeeps.1 hkeeps.2.1 hkeeps.2.2
  | key f hmem hmapping =>
    exact hiff (IsKey.unseen hshape hmem hmapping h) fun hkeeps =>
      IsKey.not_unseen hshape hmem h hkeeps.1 hkeeps.2

end Requoting

/-- **Where quotes around a word are read.** Put quotes of either kind around a plain word that
stands as a whole item anywhere in a document, as a whole scalar or a whole entry in brackets beside
the key of a field, or as a whole value or key one level below a field. The stack is the same as
without them, unless the place keeps its quotes: the value of `external` that is true for a network,
the key of a network or of a dependency of a service, and the key of a system control with a value. -/
theorem quotes_are_read_iff {text : Text} (r : Requoting text)
    (slot : Slot (Document.ofText text) r.line) (h : r.Fills slot) :
    Stack.read r.edited = Stack.read text ↔ ¬slot.KeepsQuotes r.word :=
  h.stack_eq_iff.trans h.unseen_iff

/-- The key of a variable, in single quotes. -/
theorem variable_key_may_be_quoted :
    let text : Text := "services:\n  web:\n    environment:\n      MODE : dev # all".toList
    let edited : Text := "services:\n  web:\n    environment:\n      'MODE' : dev # all".toList
    ∃ (r : Requoting text) (slot : Slot (Document.ofText text) r.line),
      r.Fills slot ∧ ¬slot.KeepsQuotes r.word ∧ r.edited = edited ∧
        Stack.read edited = Stack.read text := by
  intro text edited
  let r : Requoting text := {
    above := ["services:", "  web:", "    environment:"].map String.toList
    before := "      ".toList
    word := "MODE".toList
    after := " : dev # all".toList
    below := []
    quote := .single
    lines_eq := by decide
    isWord := ⟨by decide, List.all_eq_true.mp (by decide)⟩ }
  let line (n : Int) (s : String) : Line := Line.ofText n s.toList
  let child : Block := ⟨line 3 "    environment:", [r.line]⟩
  let field : (Document.ofText text).Field := {
    kind := .service
    entry := ⟨line 2 "  web:", [line 3 "    environment:", r.line]⟩
    child := child
    entry_mem := by decide
    child_mem := by decide }
  let slot : Slot (Document.ofText text) r.line :=
    .key field (by decide) fun hcommand => absurd hcommand.2 (by decide)
  have hfills : r.Fills slot := ⟨List.all_eq_true.mp (by decide), " ".toList,
    " dev # all".toList, rfl, List.all_eq_true.mp (by decide)⟩
  have hkeeps : ¬slot.KeepsQuotes r.word := by
    have hread {key : Text} (hkey : some key ≠ child.header.key?) : ¬field.IsReadAs key :=
      fun hread => hkey hread.key?_header.symm
    rintro ⟨-, hnames | hnames | ⟨hnames, -⟩⟩
    · exact hread (by decide) hnames
    · exact hread (by decide) hnames
    · exact hread (by decide) hnames
  have hedited : r.edited = edited := by decide
  exact ⟨r, slot, hfills, hkeeps, hedited,
    hedited ▸ (quotes_are_read_iff r slot hfills).mpr hkeeps⟩

/-- A dependency that is a key keeps its quotes, and so does the value that is to make a network
external. -/
theorem quotes_read_where_kept :
    let service : Text := "services:\n  web:\n    depends_on:\n      db:".toList
    let network : Text := "networks:\n  net:\n    external: true".toList
    (∃ (r : Requoting service) (slot : Slot (Document.ofText service) r.line),
      r.Fills slot ∧ Stack.read r.edited ≠ Stack.read service) ∧
    ∃ (r : Requoting network) (slot : Slot (Document.ofText network) r.line),
      r.Fills slot ∧ Stack.read r.edited ≠ Stack.read network := by
  intro service network
  have hread {text : Text} {r : Requoting text} {slot : Slot (Document.ofText text) r.line}
      (hfills : r.Fills slot) (hkeeps : slot.KeepsQuotes r.word) :
      Stack.read r.edited ≠ Stack.read text := fun heq =>
    hfills.unseen_iff.mp (hfills.stack_eq_iff.mp heq) hkeeps
  let line (n : Int) (s : String) : Line := Line.ofText n s.toList
  constructor
  · let r : Requoting service := {
      above := ["services:", "  web:", "    depends_on:"].map String.toList
      before := "      ".toList
      word := "db".toList
      after := ":".toList
      below := []
      quote := .double
      lines_eq := by decide
      isWord := ⟨by decide, List.all_eq_true.mp (by decide)⟩ }
    let field : (Document.ofText service).Field := {
      kind := .service
      entry := ⟨line 2 "  web:", [line 3 "    depends_on:", r.line]⟩
      child := ⟨line 3 "    depends_on:", [r.line]⟩
      entry_mem := by decide
      child_mem := by decide }
    let slot : Slot (Document.ofText service) r.line :=
      .key field (by decide) fun hcommand => absurd hcommand.2 (by decide)
    have hfills : r.Fills slot := ⟨List.all_eq_true.mp (by decide), [], [], rfl, nofun⟩
    have hfound : field.IsReadAs "depends_on".toList := by
      rw [Document.Field.IsReadAs]
      decide
    exact ⟨r, slot, hfills, hread hfills ⟨rfl, .inr (.inl hfound)⟩⟩
  · let r : Requoting network := {
      above := ["networks:", "  net:"].map String.toList
      before := "    external: ".toList
      word := "true".toList
      after := []
      below := []
      quote := .double
      lines_eq := by decide
      isWord := ⟨by decide, List.all_eq_true.mp (by decide)⟩ }
    let field : (Document.ofText network).Field := {
      kind := .network
      entry := ⟨line 2 "  net:", [r.line]⟩
      child := ⟨r.line, []⟩
      entry_mem := by decide
      child_mem := by decide }
    let slot : Slot (Document.ofText network) r.line := .scalar field rfl
    have hkey : Text.IsKey "external".toList :=
      ⟨⟨'e', "xternal".toList, rfl, by decide⟩, List.all_eq_true.mp (by decide)⟩
    have hlead : Text.LeadsTo "external".toList "    external: ".toList :=
      @Text.LeadsTo.intro "external".toList "    ".toList [] " ".toList
        (List.all_eq_true.mp (by decide)) hkey nofun (by decide) (List.all_eq_true.mp (by decide))
    have hfills : r.Fills slot := ⟨⟨_, hlead⟩, by decide⟩
    have hfound : field.IsReadAs "external".toList := by
      rw [Document.Field.IsReadAs]
      decide
    exact ⟨r, slot, hfills, hread hfills ⟨rfl, hfound, by decide⟩⟩

end ComposeLint
