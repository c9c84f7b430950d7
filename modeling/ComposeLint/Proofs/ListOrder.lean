import ComposeLint.Proofs.Document.Blocks
import ComposeLint.Proofs.Document.Lines
import ComposeLint.Proofs.Fields

/-! # Lists in the order of the text

A list of a service may be written between brackets, item by item and as a mapping, with several of
these forms at once. Its reader collects list entries and keys apart and sorts the outcome. The lists
come out in the order of the text all the same (`service_lists_keep_order`), with one exception: the
dependencies of one line are sorted by name, so those between brackets are in their order only if
they were written in the order of their names. -/

namespace ComposeLint

/-- A position in a document: a line and, between brackets on it, how many commas stand to the
left. -/
structure Position where
  line : Int
  commas : Nat
deriving DecidableEq

def Position.Before (p q : Position) : Prop :=
  p.line < q.line ∨ p.line = q.line ∧ p.commas < q.commas

/-- One entry of a list: a piece between brackets, an item, or a key with its block. -/
inductive Member
  | piece (text : Text)
  | item (text : Text)
  | key (child : Block)
deriving DecidableEq

namespace Member

variable {α : Type}

def isPiece : Member → Bool
  | piece _ => true
  | _ => false

/-- What a member of a list gives, where list entries are read by their text. -/
def value? (ofText : Text → Option α) (ofKey : Block → Option α) : Member → Option α
  | piece text | item text => ofText text
  | key child => ofKey child

def toVariable? : Member → Option Variable :=
  value? Block.variableOfItem? fun child => some (Block.variableOfKey child.header)

def toAttachment? : Member → Option Attachment :=
  value? (fun text => if text.isEmpty then none else some ⟨text.unquote, none⟩) fun child =>
    some (Block.attachmentOf child)

def toSetting? : Member → Option Setting :=
  value? Block.settingOfItem? fun child => Block.settingOfKey? child.header

def toDependency? : Member → Option Text :=
  value? (fun text => if text.isEmpty then none else some text.unquote) fun child =>
    some (child.header.key?.getD [])

end Member

/-- A member and where it stands. -/
abbrev Entry := Position × Member

namespace Block

/-- The pieces between the brackets of a list, also those with nothing in them. -/
def brackets (b : Block) : List Text := (b.value.drop 1).dropLast.splitOn ','

/-- What stands directly below a key, and where. All pieces of one pair of brackets stand on the line
of the key itself. -/
inductive Gives (b : Block) : Position → Member → Prop
  | piece {i : Nat} {text : Text} (brackets : b.isFlowList = true)
    (hi : b.brackets[i]? = some text) : Gives b ⟨b.header.number, i⟩ (.piece text.trim)
  | item {l : Line} (brackets : b.isFlowList = false) (hl : l ∈ b.body)
    (here : isItemAt b.childIndent? l = true) : Gives b ⟨l.number, 0⟩ (.item l.item)
  | key {c : Block} (hc : c ∈ b.childBlocks) : Gives b ⟨c.header.number, 0⟩ (.key c)

/-- These are all entries below the child with this key, in the order of the text. -/
structure Lists (b : Block) (key : Text) (entries : List Entry) : Prop where
  ordered : entries.Pairwise fun e f => e.1.Before f.1
  mem_iff : ∀ e, e ∈ entries ↔ ∃ child, b.child? key = some child ∧ child.Gives e.1 e.2

/-- The values of all entries below a key, in the order of the text. -/
def ListsInOrder {α : Type} (b : Block) (key : Text) (value? : Member → Option α)
    (values : List α) : Prop :=
  ∃ entries, b.Lists key entries ∧ values = entries.filterMap fun e => value? e.2

end Block

/-! ## Entries line by line -/

namespace Block

def itemEntry (l : Line) : Entry := (⟨l.number, 0⟩, .item l.item)

def keyEntry (c : Block) : Entry := (⟨c.header.number, 0⟩, .key c)

/-- The entries that items and keys give, line by line. -/
def entriesBelow (isItem isKey : Line → Bool) : List Line → List Entry
  | [] => []
  | l :: rest =>
    if isKey l then keyEntry ⟨l, owned l rest⟩ :: entriesBelow isItem isKey rest
    else if isItem l then itemEntry l :: entriesBelow isItem isKey rest
    else entriesBelow isItem isKey rest

section Below

variable {isItem isKey : Line → Bool}

/-- Items first and then keys: the same entries, in another order. -/
theorem perm_entriesBelow (hapart : ∀ l, isKey l = true → isItem l = false) (lines : List Line) :
    ((lines.filter isItem).map itemEntry ++ (blocksAt isKey owned lines).map keyEntry).Perm
      (entriesBelow isItem isKey lines) := by
  induction lines with
  | nil => exact .nil
  | cons l rest ih =>
    rw [entriesBelow, blocksAt, List.filter_cons]
    cases hkey : isKey l with
    | true =>
      rw [if_pos rfl, if_pos rfl, hapart l hkey, if_neg Bool.false_ne_true, List.map_cons]
      exact List.perm_middle.trans (ih.cons _)
    | false =>
      rw [if_neg Bool.false_ne_true, if_neg Bool.false_ne_true]
      cases isItem l with
      | true => exact ih.cons _
      | false => exact ih

theorem entriesBelow_of_no_items (lines : List Line) :
    entriesBelow (fun _ => false) isKey lines = (blocksAt isKey owned lines).map keyEntry := by
  induction lines with
  | nil => rfl
  | cons l rest ih =>
    rw [entriesBelow, blocksAt]
    cases isKey l with
    | true => rw [if_pos rfl, if_pos rfl, List.map_cons, ih]
    | false => exact ih

/-- The entries stand on the lines that they come from. -/
theorem exists_of_mem_entriesBelow {lines : List Line} {e : Entry}
    (he : e ∈ entriesBelow isItem isKey lines) : ∃ l ∈ lines, e.1.line = l.number := by
  induction lines with
  | nil => cases he
  | cons l rest ih =>
    have hrest : e ∈ entriesBelow isItem isKey rest → ∃ m ∈ l :: rest, e.1.line = m.number :=
      fun h => (ih h).imp fun m hm => ⟨List.mem_cons_of_mem l hm.1, hm.2⟩
    rw [entriesBelow] at he
    split at he
    · rcases List.mem_cons.mp he with rfl | he
      · exact ⟨l, List.mem_cons_self, rfl⟩
      · exact hrest he
    · split at he
      · rcases List.mem_cons.mp he with rfl | he
        · exact ⟨l, List.mem_cons_self, rfl⟩
        · exact hrest he
      · exact hrest he

theorem pairwise_entriesBelow {lines : List Line}
    (h : lines.Pairwise fun l m => l.number < m.number) :
    (entriesBelow isItem isKey lines).Pairwise fun e f => e.1.line < f.1.line := by
  induction lines with
  | nil => exact .nil
  | cons l rest ih =>
    obtain ⟨hl, hrest⟩ := List.pairwise_cons.mp h
    have hlater : ∀ f ∈ entriesBelow isItem isKey rest, l.number < f.1.line := by
      intro f hf
      obtain ⟨m, hm, hline⟩ := exists_of_mem_entriesBelow hf
      exact hline ▸ hl m hm
    rw [entriesBelow]
    split
    · exact .cons hlater (ih hrest)
    · split
      · exact .cons hlater (ih hrest)
      · exact ih hrest

end Below

/-- The entries between the brackets of a list. -/
def pieces (b : Block) : List Entry :=
  if b.isFlowList then
    b.brackets.mapIdx fun i text => (⟨b.header.number, i⟩, .piece (Text.trim text))
  else []

/-- The entries below the header. There are no items below a list in brackets. -/
def below (b : Block) : List Entry :=
  entriesBelow (fun l => !b.isFlowList && isItemAt b.childIndent? l) (isKeyAt b.childIndent?) b.body

variable {b : Block}

theorem perm_below (b : Block) :
    ((b.body.filter fun l => !b.isFlowList && isItemAt b.childIndent? l).map itemEntry ++
      b.childBlocks.map keyEntry).Perm b.below :=
  perm_entriesBelow (fun l hl => by rw [isItemAt_of_isKeyAt hl, Bool.and_false]) b.body

theorem mem_pieces {e : Entry} : e ∈ b.pieces ↔ b.isFlowList = true ∧ ∃ i text,
    b.brackets[i]? = some text ∧ e = (⟨b.header.number, i⟩, .piece (Text.trim text)) := by
  unfold pieces
  split
  · next hflow =>
    simp only [hflow, true_and, List.mem_mapIdx, List.getElem?_eq_some_iff]
    constructor
    · rintro ⟨i, hi, rfl⟩
      exact ⟨i, _, ⟨hi, rfl⟩, rfl⟩
    · rintro ⟨i, _, ⟨hi, rfl⟩, rfl⟩
      exact ⟨i, hi, rfl⟩
  · next hflow => simp [hflow]

theorem mem_pieces_append_below {e : Entry} : e ∈ b.pieces ++ b.below ↔ b.Gives e.1 e.2 := by
  rw [List.mem_append, mem_pieces, ← b.perm_below.mem_iff, List.mem_append, List.mem_map,
    List.mem_map]
  constructor
  · rintro (⟨hflow, i, text, hi, rfl⟩ | ⟨l, hl, rfl⟩ | ⟨c, hc, rfl⟩)
    · exact .piece hflow hi
    · rw [List.mem_filter, Bool.and_eq_true, Bool.not_eq_true'] at hl
      exact .item hl.2.1 hl.1 hl.2.2
    · exact .key hc
  · obtain ⟨p, m⟩ := e
    rintro (⟨hflow, hi⟩ | ⟨hflow, hl, hitem⟩ | hc)
    · exact .inl ⟨hflow, _, _, hi, rfl⟩
    · exact .inr (.inl ⟨_, List.mem_filter.mpr ⟨hl, by rw [hflow, hitem]; rfl⟩, rfl⟩)
    · exact .inr (.inr ⟨_, hc, rfl⟩)

theorem pairwise_pieces_append_below
    (h : (b.header :: b.body).Pairwise fun l m => l.number < m.number) :
    (b.pieces ++ b.below).Pairwise fun e f => e.1.Before f.1 := by
  obtain ⟨hheader, hbody⟩ := List.pairwise_cons.mp h
  refine List.pairwise_append.mpr ⟨?_, (pairwise_entriesBelow hbody).imp .inl, ?_⟩
  · unfold pieces
    split
    · rw [List.pairwise_iff_getElem]
      intro i j hi hj hij
      rw [List.getElem_mapIdx, List.getElem_mapIdx]
      exact .inr ⟨rfl, hij⟩
    · exact .nil
  · intro e he f hf
    obtain ⟨-, i, text, -, rfl⟩ := mem_pieces.mp he
    obtain ⟨l, hl, hline⟩ := exists_of_mem_entriesBelow hf
    exact .inl (hline ▸ hheader l hl)

variable {key : Text}

/-- There is one list only. -/
theorem Lists.unique {entries others : List Entry} (h : b.Lists key entries)
    (h' : b.Lists key others) : entries = others := by
  have hirrefl : Std.Irrefl fun e f : Entry => e.1.Before f.1 :=
    ⟨fun e he => by rcases he with h | h <;> omega⟩
  have hantisymm : Std.Antisymm fun e f : Entry => e.1.Before f.1 :=
    ⟨fun e f he hf => by rcases he with h | h <;> rcases hf with h' | h' <;> omega⟩
  exact List.Pairwise.eq_of_mem_iff h.ordered h'.ordered fun e =>
    (h.mem_iff e).trans (h'.mem_iff e).symm

theorem pairwise_of_child? {child : Block} (hbody : b.body.Pairwise fun l m => l.number < m.number)
    (hchild : b.child? key = some child) :
    (child.header :: child.body).Pairwise fun l m => l.number < m.number :=
  hbody.sublist (isIn_of_mem_blocksAt owned_sublist (List.mem_of_find?_eq_some hchild))

theorem lists_of_child? {child : Block} (hbody : b.body.Pairwise fun l m => l.number < m.number)
    (hchild : b.child? key = some child) : b.Lists key (child.pieces ++ child.below) where
  ordered := pairwise_pieces_append_below (pairwise_of_child? hbody hchild)
  mem_iff e := by
    rw [mem_pieces_append_below, hchild]
    simp

theorem lists_nil (hchild : b.child? key = none) : b.Lists key [] where
  ordered := .nil
  mem_iff e := by simp [hchild]

end Block

/-! ## What readers find -/

/-- Values that do not depend on the index are those of the list itself. -/
theorem filterMap_mapIdx {α β γ : Type} {f : Nat → α → β} {g : β → Option γ} {k : α → Option γ}
    (h : ∀ i a, g (f i a) = k a) (l : List α) : (l.mapIdx f).filterMap g = l.filterMap k := by
  have hfst := congrArg (List.filterMap k) (List.zipIdx_map_fst 0 l)
  rw [List.filterMap_map] at hfst
  rw [List.mapIdx_eq_zipIdx_map, List.filterMap_map, ← hfst]
  exact List.filterMap_congr fun e _ => h e.2 e.1

namespace Block

section Found

variable {α : Type} (ofText : Text → Option α) (ofKey : Block → Option α)

/-- The value of an entry with its line. -/
def numbered (value? : Member → Option α) (e : Entry) : Option (Int × α) :=
  (value? e.2).map (e.1.line, ·)

theorem map_numbered (value? : Member → Option α) (entries : List Entry) :
    (entries.filterMap (numbered value?)).map (·.2) = entries.filterMap fun e => value? e.2 :=
  map_filterMap_place _ entries

variable {b : Block}

theorem filterMap_keyEntry (blocks : List Block) :
    (blocks.map keyEntry).filterMap (numbered (Member.value? ofText ofKey)) =
      blocks.filterMap fun c => (ofKey c).map (c.header.number, ·) :=
  List.filterMap_map

/-- What is found in a list of items is what stands below the header, in another order. -/
theorem perm_found (hflow : b.isFlowList = false) : (b.found ofText ofKey).Perm
    (b.below.filterMap (numbered (Member.value? ofText ofKey))) := by
  have hperm := b.perm_below.filterMap (numbered (Member.value? ofText ofKey))
  rw [List.filterMap_append, filterMap_keyEntry, List.filterMap_map] at hperm
  rw [found, entries, hflow, if_neg Bool.false_ne_true, List.filterMap_map]
  simp only [hflow, Bool.not_false, Bool.true_and] at hperm
  exact hperm

/-- What is found in a list in brackets is in order from the start. -/
theorem found_of_isFlowList (hempty : ofText [] = none) (hflow : b.isFlowList = true) :
    b.found ofText ofKey = (b.pieces ++ b.below).filterMap
      (numbered (Member.value? ofText ofKey)) := by
  have hpieces := calc (b.entries.filterMap fun e => (ofText e.2).map (e.1.number, ·))
    _ = b.brackets.filterMap fun text => (ofText (Text.trim text)).map (b.header.number, ·) := by
      rw [entries, if_pos hflow, List.filterMap_map, List.filterMap_filter, List.filterMap_map]
      refine List.filterMap_congr fun text _ => ?_
      cases hpart : Text.trim text <;> simp [hpart, hempty]
    _ = b.pieces.filterMap (numbered (Member.value? ofText ofKey)) := by
      rw [pieces, if_pos hflow]
      refine (filterMap_mapIdx ?_ b.brackets).symm
      exact fun _ _ => rfl
  have hbelow : b.below = b.childBlocks.map keyEntry := by
    rw [below, hflow]
    exact entriesBelow_of_no_items b.body
  rw [found, hpieces, List.filterMap_append, hbelow, filterMap_keyEntry]

end Found

section Readers

variable {α : Type} {ofText : Text → Option α} {ofKey : Block → Option α} {b : Block} {key : Text}

/-- A stable sort by lines puts what was found in the order of the text. -/
theorem inLineOrder_found (h : (b.header :: b.body).Pairwise fun l m => l.number < m.number)
    (hempty : ofText [] = none) : inLineOrder (b.found ofText ofKey) =
      (b.pieces ++ b.below).filterMap fun e => e.2.value? ofText ofKey := by
  cases hflow : b.isFlowList with
  | true =>
    -- pieces share the line of the header, so they are in order, but not strictly
    have hlines : (b.pieces ++ b.below).Pairwise fun e f => e.1.line ≤ f.1.line :=
      (pairwise_pieces_append_below h).imp fun hbefore => by rcases hbefore with h | h <;> omega
    rw [found_of_isFlowList ofText ofKey hempty hflow]
    exact inLineOrder_filterMap (fun e => e.2.value? ofText ofKey) hlines
  | false =>
    -- items and keys were found apart, but no two of them are on one line
    have hnone : b.pieces = [] := by simp [pieces, hflow]
    have hlines : b.below.Pairwise fun e f => e.1.line < f.1.line :=
      pairwise_entriesBelow (List.pairwise_cons.mp h).2
    rw [inLineOrder_eq_of_lines (perm_found ofText ofKey hflow)
      (pairwise_filterMap_place _ hlines), map_numbered, hnone, List.nil_append]

/-- The common part of the readers that sort by lines alone. -/
theorem listsInOrder_of_found (hbody : b.body.Pairwise fun l m => l.number < m.number)
    (hempty : ofText [] = none) {values : List α}
    (hnone : b.child? key = none → values = [])
    (hsome : ∀ child, b.child? key = some child →
      values = inLineOrder (child.found ofText ofKey)) :
    b.ListsInOrder key (Member.value? ofText ofKey) values := by
  cases hchild : b.child? key with
  | none => exact ⟨[], lists_nil hchild, hnone hchild⟩
  | some child =>
    exact ⟨_, lists_of_child? hbody hchild,
      (hsome child hchild).trans (inLineOrder_found (pairwise_of_child? hbody hchild) hempty)⟩

theorem environment_inOrder (hbody : b.body.Pairwise fun l m => l.number < m.number) :
    b.ListsInOrder "environment".toList Member.toVariable? b.environment :=
  listsInOrder_of_found hbody (by decide) (fun hchild => by simp only [environment, hchild])
    fun _ => environment_of_child?

theorem attachments_inOrder (hbody : b.body.Pairwise fun l m => l.number < m.number) :
    b.ListsInOrder "networks".toList Member.toAttachment? b.attachments :=
  listsInOrder_of_found hbody rfl (fun hchild => by simp only [attachments, hchild])
    fun _ => attachments_of_child?

theorem sysctls_inOrder (hbody : b.body.Pairwise fun l m => l.number < m.number) :
    b.ListsInOrder "sysctls".toList Member.toSetting? b.sysctls :=
  listsInOrder_of_found hbody (by decide) (fun hchild => by simp only [sysctls, hchild])
    fun _ => sysctls_of_child?

end Readers

end Block

/-! ## Dependencies -/

namespace Block

variable {b : Block}

/-- All pieces of a list stand on its first line. -/
theorem filterMap_numbered_pieces {α : Type} (value? : Member → Option α) :
    b.pieces.filterMap (numbered value?) =
      (b.pieces.filterMap fun e => value? e.2).map (b.header.number, ·) := by
  rw [List.map_filterMap]
  refine List.filterMap_congr fun e he => ?_
  obtain ⟨-, i, text, -, rfl⟩ := mem_pieces.mp he
  rfl

theorem lt_of_mem_numbered_below {α : Type} {value? : Member → Option α} {e : Int × α}
    (h : (b.header :: b.body).Pairwise fun l m => l.number < m.number)
    (he : e ∈ b.below.filterMap (numbered value?)) : b.header.number < e.1 := by
  obtain ⟨f, hf, hvalue⟩ := List.mem_filterMap.mp he
  obtain ⟨_, -, rfl⟩ := Option.map_eq_some_iff.mp hvalue
  obtain ⟨l, hl, hline⟩ := exists_of_mem_entriesBelow hf
  exact hline ▸ (List.pairwise_cons.mp h).1 l hl

/-- The sort by line and name reaches the pieces between brackets only. -/
theorem mergeSort_foundDependencies
    (h : (b.header :: b.body).Pairwise fun l m => l.number < m.number) :
    (b.foundDependencies.mergeSort dependencyLe).map (·.2) =
      (b.pieces.filterMap fun e => e.2.toDependency?).mergeSort Text.atMost ++
        b.below.filterMap fun e => e.2.toDependency? := by
  have hlines : (b.below.filterMap (numbered Member.toDependency?)).Pairwise fun a b => a.1 < b.1 :=
    pairwise_filterMap_place _ (pairwise_entriesBelow (List.pairwise_cons.mp h).2)
  cases hflow : b.isFlowList with
  | true =>
    have hfound : b.foundDependencies =
        (b.pieces.filterMap fun e => e.2.toDependency?).map (b.header.number, ·) ++
          b.below.filterMap (numbered Member.toDependency?) := by
      rw [foundDependencies, found_of_isFlowList _ _ rfl hflow, List.filterMap_append]
      exact congrArg (· ++ _) (filterMap_numbered_pieces _)
    rw [hfound, mergeSort_dependencyLe _ hlines fun e => lt_of_mem_numbered_below h,
      List.map_append, map_numbered, List.map_map]
    exact congrArg (· ++ _) (List.map_id _)
  | false =>
    have hnone : b.pieces = [] := by simp [pieces, hflow]
    have hsorted : b.foundDependencies.mergeSort dependencyLe =
        b.below.filterMap (numbered Member.toDependency?) :=
      mergeSort_eq_of_lines dependencyLe_trans dependencyLe_total line_le_of_dependencyLe
        (perm_found _ _ hflow) hlines
    rw [hsorted, map_numbered, hnone, List.filterMap_nil, List.mergeSort_nil, List.nil_append]

end Block

/-- How the dependencies of a service are ordered. The entries between brackets come first in the
text, and their names are sorted. -/
def Block.OrdersDependencies (b : Block) (names : List Text) : Prop :=
  ∃ pieces others, b.Lists "depends_on".toList (pieces ++ others) ∧
    (∀ e ∈ pieces, e.2.isPiece = true) ∧ (∀ e ∈ others, e.2.isPiece = false) ∧
    names = (pieces.filterMap fun e => e.2.toDependency?).mergeSort Text.atMost ++
      (others.filterMap fun e => e.2.toDependency?) ∧
    (b.ListsInOrder "depends_on".toList Member.toDependency? names ↔
      (pieces.filterMap fun e => e.2.toDependency?).Pairwise fun s t => s.atMost t = true)

namespace Block

variable {b : Block}

theorem ordersDependencies (hbody : b.body.Pairwise fun l m => l.number < m.number) :
    b.OrdersDependencies b.dependencies := by
  cases hchild : b.child? "depends_on".toList with
  | none =>
    have hnil : b.dependencies = [] := by simp only [dependencies, hchild]
    refine ⟨[], [], lists_nil hchild, by simp, by simp, ?_, ?_⟩
    · rw [hnil, List.filterMap_nil, List.mergeSort_nil]
      rfl
    · exact ⟨fun _ => .nil, fun _ => ⟨[], lists_nil hchild, hnil⟩⟩
  | some child =>
    have hlists := lists_of_child? hbody hchild
    have hnames := (dependencies_of_child? hchild).trans
      (mergeSort_foundDependencies (pairwise_of_child? hbody hchild))
    refine ⟨child.pieces, child.below, hlists, fun e he => ?_, fun e he => ?_, hnames, ?_⟩
    · obtain ⟨-, i, text, -, rfl⟩ := mem_pieces.mp he
      rfl
    · rw [← child.perm_below.mem_iff, List.mem_append, List.mem_map, List.mem_map] at he
      rcases he with ⟨l, -, rfl⟩ | ⟨c, -, rfl⟩ <;> rfl
    · constructor
      · rintro ⟨entries, hentries, hvalues⟩
        rw [hentries.unique hlists, List.filterMap_append, hnames, List.append_cancel_right_eq]
          at hvalues
        exact hvalues ▸ pairwise_mergeSort_atMost _
      · intro hsorted
        refine ⟨_, hlists, ?_⟩
        rw [hnames, List.mergeSort_of_pairwise hsorted, List.filterMap_append]

end Block

/-- The lists that were read from the block of a service are in the order of the text, but for names
of dependencies on one line. -/
structure Service.KeepsOrder (b : Block) (service : Service) : Prop where
  environment : b.ListsInOrder "environment".toList Member.toVariable? service.environment
  networks : b.ListsInOrder "networks".toList Member.toAttachment? service.networks
  sysctls : b.ListsInOrder "sysctls".toList Member.toSetting? service.sysctls
  dependsOn : b.OrdersDependencies service.dependsOn

/-- **Lists in the order of the text.** Each service of a document is read off one block, with its
environment, networks and system controls in the order in which their entries stand in the text: by
line and, between brackets, from left to right, however the forms are mixed. For the dependencies
this holds if and only if those between brackets are sorted by name; if they are not, they come out
sorted by name, ahead of the others in the order of the text. -/
theorem service_lists_keep_order (text : Text) :
    List.Forall₂ Service.KeepsOrder ((Document.ofText text).blocks .service)
      (Stack.read text).services := by
  rw [Stack.read, Stack.ofDocument, List.forall₂_map_right_iff, List.forall₂_same]
  intro b hb
  have hbody := (Document.pairwise_number text).sublist (Document.isIn_of_mem_blocks hb).body_sublist
  exact {
    environment := Block.environment_inOrder hbody
    networks := Block.attachments_inOrder hbody
    sysctls := Block.sysctls_inOrder hbody
    dependsOn := Block.ordersDependencies hbody }

/-- Two dependencies between brackets, against the order of their names. -/
theorem bracketed_dependencies_lose_order :
    let web : Block := ⟨⟨2, "  web:".toList, false⟩, [⟨3, "    depends_on: [b, a]".toList, false⟩]⟩
    let text : Text := "services:\n  web:\n    depends_on: [b, a]".toList
    (Document.ofText text).blocks .service = [web] ∧
      (Stack.read text).services.map (·.dependsOn) = [["a".toList, "b".toList]] ∧
      web.ListsInOrder "depends_on".toList Member.toDependency? ["b".toList, "a".toList] ∧
      ¬web.ListsInOrder "depends_on".toList Member.toDependency? ["a".toList, "b".toList] := by
  intro web text
  have hweb : (Document.ofText text).blocks .service = [web] := by decide
  have hbody : web.body.Pairwise fun l m => l.number < m.number := List.pairwise_singleton _ _
  let child : Block := ⟨⟨3, "    depends_on: [b, a]".toList, false⟩, []⟩
  have hchild : web.child? "depends_on".toList = some child := by decide
  have hlists := Block.lists_of_child? hbody hchild
  refine ⟨hweb, ?_, ⟨_, hlists, by decide⟩, ?_⟩
  · have hpieces : (child.pieces.filterMap fun e => e.2.toDependency?) =
        ["b".toList, "a".toList] := by decide
    have hbelow : (child.below.filterMap fun e => e.2.toDependency?) = [] := by decide
    have hsort : ["b".toList, "a".toList].mergeSort Text.atMost = ["a".toList, "b".toList] := by
      simp [List.mergeSort, Text.atMost]
    have hnames : web.dependencies = ["a".toList, "b".toList] := by
      rw [Block.dependencies_of_child? hchild,
        Block.mergeSort_foundDependencies (List.pairwise_singleton _ _), hpieces, hbelow, hsort,
        List.append_nil]
    rw [Stack.read, Stack.ofDocument, hweb]
    exact congrArg (· :: []) hnames
  · rintro ⟨entries, hentries, hvalues⟩
    rw [hentries.unique hlists] at hvalues
    revert hvalues
    decide

end ComposeLint
