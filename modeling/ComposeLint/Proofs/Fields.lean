import ComposeLint.Proofs.Alike.Shape
import ComposeLint.Proofs.Line.QuotedWords
import ComposeLint.Proofs.Sorting
import Mathlib

/-! # Fields of a service

Each field of a service is read off the one child that its key finds: a scalar off the value there, a
list off what is found below the key, which is first the values of entries and then those of keys,
with their lines. Entries are read without the quotes around them, and numbers enter only as the order
of what was found. So services are read alike if each field is given alike by its child
(`Service.ofBlock_eq_of_givesAt`), wherever the children stand. -/

namespace ComposeLint

/-- What was found, with the lines numbered anew. -/
def placed {α : Type} (place : Int → Int) (found : List (Int × α)) : List (Int × α) :=
  found.map fun e => (place e.1, e.2)

section Placed

variable {place : Int → Int} {α : Type}

@[simp]
theorem placed_id (found : List (Int × α)) : placed id found = found := List.map_id' found

theorem map_snd_placed (found : List (Int × α)) : (placed place found).map (·.2) = found.map (·.2) := by
  rw [placed, List.map_map]
  rfl

theorem inLineOrder_placed (hp : StrictMono place) (found : List (Int × α)) :
    inLineOrder (placed place found) = inLineOrder found := by
  unfold inLineOrder placed
  rw [← List.map_mergeSort (r := fun a b => decide (a.1 ≤ b.1)), List.map_map]
  · rfl
  · intro a _ b _
    simp [hp.le_iff_le]

theorem mergeSort_placed (hp : StrictMono place) (found : List (Int × Text)) :
    ((placed place found).mergeSort dependencyLe).map (·.2) =
      (found.mergeSort dependencyLe).map (·.2) := by
  unfold placed
  rw [← List.map_mergeSort (r := dependencyLe), List.map_map]
  · rfl
  · intro a _ b _
    have heq : (place a.1 == place b.1) = (a.1 == b.1) := by
      rw [Bool.eq_iff_iff]
      simp [hp.injective.eq_iff]
    simp [dependencyLe, hp.lt_iff_lt, heq]

end Placed

namespace Block

/-! ## What is found below a key -/

section Found

variable {α : Type} (ofText : Text → Option α) (ofKey : Block → Option α)

/-- The values that a reader collects below a key, with their lines: first those of the list
entries, then those of the keys. -/
def found (b : Block) : List (Int × α) :=
  (b.entries.filterMap fun e => (ofText e.2).map (e.1.number, ·)) ++
    b.childBlocks.filterMap fun c => (ofKey c).map (c.header.number, ·)

/-- The values of keys alone. -/
def keyed (b : Block) : List (Int × α) :=
  b.childBlocks.filterMap fun c => (ofKey c).map (c.header.number, ·)

end Found

variable {b child : Block}

/-- Readers that take every text and every key only leave empty entries out. -/
theorem found_of_any {α : Type} (f : Text → α) (g : Block → α) (b : Block) :
    b.found (fun text => if text.isEmpty then none else some (f text)) (fun c => some (g c)) =
      ((b.entries.filter (!·.2.isEmpty)).map fun e => (e.1.number, f e.2)) ++
        b.childBlocks.map fun c => (c.header.number, g c) := by
  rw [found, ← List.filterMap_eq_map, ← List.filterMap_eq_map, List.filterMap_filter]
  refine congrArg (· ++ _) (List.filterMap_congr fun e _ => ?_)
  cases e.2.isEmpty <;> rfl

theorem environment_of_child? (hchild : b.child? "environment".toList = some child) :
    b.environment = inLineOrder
      (child.found variableOfItem? fun c => some (variableOfKey c.header)) := by
  simp only [environment, hchild]
  rw [found, children_eq, List.map_map, ← List.filterMap_eq_map]
  rfl

theorem attachments_of_child? (hchild : b.child? "networks".toList = some child) :
    b.attachments = inLineOrder (child.found
      (fun text => if text.isEmpty then none else some ⟨text.unquote, none⟩)
      fun c => some (attachmentOf c)) := by
  simp only [attachments, hchild]
  exact congrArg inLineOrder
    (found_of_any (fun text => (⟨text.unquote, none⟩ : Attachment)) attachmentOf child).symm

theorem sysctls_of_child? (hchild : b.child? "sysctls".toList = some child) :
    b.sysctls = inLineOrder (child.found settingOfItem? fun c => settingOfKey? c.header) := by
  simp only [sysctls, hchild]
  rw [found, children_eq, List.filterMap_map]
  rfl

/-- The names of dependencies as they are found. -/
def foundDependencies (b : Block) : List (Int × Text) :=
  b.found (fun text => if text.isEmpty then none else some text.unquote) fun c =>
    some (c.header.key?.getD [])

theorem dependencies_of_child? (hchild : b.child? "depends_on".toList = some child) :
    b.dependencies = (child.foundDependencies.mergeSort dependencyLe).map (·.2) := by
  simp only [dependencies, hchild]
  rw [foundDependencies, found_of_any Text.unquote fun c => c.header.key?.getD [], children_eq,
    List.map_map]
  rfl

/-! ## Children that give the same -/

/-- Whether a command is what stands below its key, and not what stands beside it. -/
def isReadBelow (command : Block) : Bool :=
  !command.isFlowList && (command.value.isEmpty || Line.isScalarHeader command.value)

/-- The entries as readers take them: with their lines, whether there is any text, and without the
quotes around it. -/
def bareEntries (b : Block) : List (Int × Bool × Text) :=
  b.entries.map fun e => (e.1.number, e.2.isEmpty, e.2.unquote)

/-- As commands `c'` and `c` have the same words. -/
structure CommandsAs (c' c : Block) : Prop where
  isFlowList : c'.isFlowList = c.isFlowList
  isEmpty : c'.value.isEmpty = c.value.isEmpty
  isScalarHeader : Line.isScalarHeader c'.value = Line.isScalarHeader c.value
  unquote : c.isFlowList = false → c'.value.unquote = c.value.unquote
  parts : c.isReadBelow = true →
    c'.content.filterMap commandPart? = c.content.filterMap commandPart?

/-- The child `c'` gives what `c` gives to the field with this key, its lines being numbered anew. -/
structure GivesAs (place : Int → Int) (key : Text) (c' c : Block) : Prop where
  entries : c'.bareEntries = placed place c.bareEntries
  scalar : key = "image".toList ∨ key = "restart".toList → c'.value.unquote = c.value.unquote
  command : key = "command".toList → c'.CommandsAs c
  environment : key = "environment".toList →
    c'.keyed (fun d => some (variableOfKey d.header)) =
      placed place (c.keyed fun d => some (variableOfKey d.header))
  networks : key = "networks".toList →
    c'.keyed (fun d => some (attachmentOf d)) = placed place (c.keyed fun d => some (attachmentOf d))
  dependsOn : key = "depends_on".toList →
    c'.keyed (fun d => some (d.header.key?.getD [])) =
      placed place (c.keyed fun d => some (d.header.key?.getD []))
  sysctls : key = "sysctls".toList →
    c'.keyed (fun d => settingOfKey? d.header) =
      placed place (c.keyed fun d => settingOfKey? d.header)

/-- For this field two services have children that give the same, or none at all. -/
def GivesAt (key : Text) (a b : Block) : Prop :=
  a.child? key = none ∧ b.child? key = none ∨
    ∃ place c' c, StrictMono place ∧ a.child? key = some c' ∧ b.child? key = some c ∧
      GivesAs place key c' c

theorem CommandsAs.refl (c : Block) : c.CommandsAs c := ⟨rfl, rfl, rfl, fun _ => rfl, fun _ => rfl⟩

theorem GivesAs.refl (key : Text) (c : Block) : GivesAs id key c c where
  entries := (placed_id _).symm
  scalar _ := rfl
  command _ := .refl c
  environment _ := (placed_id _).symm
  networks _ := (placed_id _).symm
  dependsOn _ := (placed_id _).symm
  sysctls _ := (placed_id _).symm

/-! ## Fields -/

section
variable {place : Int → Int} {c' c : Block}

/-- A reader that does not see the quotes around an entry finds the same in entries that are the same
without them. -/
theorem filterMap_entries_placed {α : Type} {ofText : Text → Option α}
    (hquotes : ∀ s t : Text, s.isEmpty = t.isEmpty → s.unquote = t.unquote → ofText s = ofText t)
    {found' found : List (Line × Text)}
    (h : found'.map (fun e => (e.1.number, e.2.isEmpty, e.2.unquote)) =
      placed place (found.map fun e => (e.1.number, e.2.isEmpty, e.2.unquote))) :
    found'.filterMap (fun e => (ofText e.2).map (e.1.number, ·)) =
      placed place (found.filterMap fun e => (ofText e.2).map (e.1.number, ·)) := by
  induction found generalizing found' with
  | nil =>
    rw [List.map_nil, placed, List.map_nil, List.map_eq_nil_iff] at h
    rw [h]
    rfl
  | cons e found ih =>
    obtain ⟨e', found', rfl, hhead, htail⟩ := List.map_eq_cons_iff.mp h
    obtain ⟨hnumber, hempty, hunquote⟩ : e'.1.number = place e.1.number ∧
        e'.2.isEmpty = e.2.isEmpty ∧ e'.2.unquote = e.2.unquote := by simpa using hhead
    rw [List.filterMap_cons, List.filterMap_cons, hquotes _ _ hempty hunquote, hnumber]
    cases ofText e.2 with
    | none => exact ih htail
    | some value => exact congrArg _ (ih htail)

theorem found_placed {α : Type} {ofText : Text → Option α} {ofKey : Block → Option α}
    (hquotes : ∀ s t : Text, s.isEmpty = t.isEmpty → s.unquote = t.unquote → ofText s = ofText t)
    (hentries : c'.bareEntries = placed place c.bareEntries)
    (hkeys : c'.keyed ofKey = placed place (c.keyed ofKey)) :
    c'.found ofText ofKey = placed place (c.found ofText ofKey) := by
  have hkeys' := congrArg (placed place (c.entries.filterMap fun e =>
    (ofText e.2).map (e.1.number, ·)) ++ ·) hkeys
  rw [found, filterMap_entries_placed hquotes hentries]
  exact hkeys'.trans List.map_append.symm

end

section
variable {a : Block}

theorem scalar?_of_givesAt {key : Text} (hkey : key = "image".toList ∨ key = "restart".toList)
    (h : GivesAt key a b) : a.scalar? key = b.scalar? key := by
  rcases h with ⟨ha, hb⟩ | ⟨place, c', c, -, ha, hb, hgives⟩
  · rw [scalar?, ha, scalar?, hb]
  · rw [scalar?, ha, scalar?, hb, Option.bind_some, Option.bind_some, hgives.scalar hkey]

theorem entriesOf_of_givesAt {key : Text} (h : GivesAt key a b) : ∃ place : Int → Int,
    (a.entriesOf key).map (fun e => (e.1.number, e.2.isEmpty, e.2.unquote)) =
      placed place ((b.entriesOf key).map fun e => (e.1.number, e.2.isEmpty, e.2.unquote)) := by
  rcases h with ⟨ha, hb⟩ | ⟨place, c', c, -, ha, hb, hgives⟩
  · exact ⟨id, by rw [entriesOf, ha, entriesOf, hb]; rfl⟩
  · exact ⟨place, by rw [entriesOf, ha, entriesOf, hb]; exact hgives.entries⟩

/-- The texts of entries without the quotes around them. -/
theorem map_unquote_of_givesAt {key : Text} (h : GivesAt key a b) :
    (a.entriesOf key).map (fun e => (e.2.isEmpty, e.2.unquote)) =
      (b.entriesOf key).map fun e => (e.2.isEmpty, e.2.unquote) := by
  obtain ⟨place, hentries⟩ := entriesOf_of_givesAt h
  have htexts := congrArg (List.map (·.2)) hentries
  rw [map_snd_placed, List.map_map, List.map_map] at htexts
  exact htexts

theorem mappingsOf_of_givesAt {key : Text} (h : GivesAt key a b) :
    a.mappingsOf key = b.mappingsOf key := by
  have hread (s : Block) : (s.entriesOf key).map (·.2.withoutQuotes) =
      ((s.entriesOf key).map fun e => (e.2.isEmpty, e.2.unquote)).map (·.2.withoutQuotes) := by
    rw [List.map_map]
    exact List.map_congr_left fun e _ => e.2.withoutQuotes_unquote.symm
  rw [mappingsOf, hread, map_unquote_of_givesAt h, ← hread, mappingsOf]

theorem capabilities_of_givesAt {key : Text} (h : GivesAt key a b) :
    ((a.entriesOf key).filter (!·.2.isEmpty)).map (·.2.unquote) =
      ((b.entriesOf key).filter (!·.2.isEmpty)).map (·.2.unquote) := by
  have hread (s : Block) : ((s.entriesOf key).filter (!·.2.isEmpty)).map (·.2.unquote) =
      (((s.entriesOf key).map fun e => (e.2.isEmpty, e.2.unquote)).filter (!·.1)).map (·.2) := by
    rw [List.filter_map, List.map_map]
    rfl
  rw [hread, map_unquote_of_givesAt h, ← hread]

theorem command?_of_givesAt (h : GivesAt "command".toList a b) : a.command? = b.command? := by
  rcases h with ⟨ha, hb⟩ | ⟨place, c', c, -, ha, hb, hgives⟩
  · simp only [command?, ha, hb]
  · have hcommand := hgives.command rfl
    have hwords : c'.entries.map (·.2.unquote) = c.entries.map (·.2.unquote) := by
      have htexts := congrArg (List.map (·.2.2)) hgives.entries
      rw [bareEntries, bareEntries, placed, List.map_map, List.map_map, List.map_map] at htexts
      exact htexts
    simp only [command?, ha, hb, Option.bind_eq_bind, Option.bind_some, hcommand.isFlowList,
      hcommand.isEmpty, hcommand.isScalarHeader, hwords]
    cases hflow : c.isFlowList with
    | true => rfl
    | false =>
      cases hbeside : !c.value.isEmpty && !Line.isScalarHeader c.value with
      | true => simp [hcommand.unquote hflow]
      | false =>
        have hbelow : c.isReadBelow = true := by
          rw [← Bool.not_or, Bool.not_eq_false'] at hbeside
          rw [isReadBelow, hflow, hbeside]
          rfl
        simp [hcommand.parts hbelow]

theorem environment_of_givesAt (h : GivesAt "environment".toList a b) :
    a.environment = b.environment := by
  rcases h with ⟨ha, hb⟩ | ⟨place, c', c, hp, ha, hb, hgives⟩
  · simp only [environment, ha, hb]
  · rw [environment_of_child? ha, environment_of_child? hb,
      found_placed (fun s t _ hunquote => by simp only [variableOfItem?, hunquote])
        hgives.entries (hgives.environment rfl), inLineOrder_placed hp]

theorem attachments_of_givesAt (h : GivesAt "networks".toList a b) :
    a.attachments = b.attachments := by
  rcases h with ⟨ha, hb⟩ | ⟨place, c', c, hp, ha, hb, hgives⟩
  · simp only [attachments, ha, hb]
  · rw [attachments_of_child? ha, attachments_of_child? hb,
      found_placed (fun s t hempty hunquote => by simp only [hempty, hunquote])
        hgives.entries (hgives.networks rfl), inLineOrder_placed hp]

theorem dependencies_of_givesAt (h : GivesAt "depends_on".toList a b) :
    a.dependencies = b.dependencies := by
  rcases h with ⟨ha, hb⟩ | ⟨place, c', c, hp, ha, hb, hgives⟩
  · simp only [dependencies, ha, hb]
  · rw [dependencies_of_child? ha, dependencies_of_child? hb, foundDependencies,
      found_placed (fun s t hempty hunquote => by simp only [hempty, hunquote])
        hgives.entries (hgives.dependsOn rfl), mergeSort_placed hp, foundDependencies]

theorem sysctls_of_givesAt (h : GivesAt "sysctls".toList a b) : a.sysctls = b.sysctls := by
  rcases h with ⟨ha, hb⟩ | ⟨place, c', c, hp, ha, hb, hgives⟩
  · simp only [sysctls, ha, hb]
  · rw [sysctls_of_child? ha, sysctls_of_child? hb,
      found_placed (fun s t _ hunquote => by simp only [settingOfItem?, hunquote])
        hgives.entries (hgives.sysctls rfl), inLineOrder_placed hp]

end

end Block

/-- A service is its name and what its children give. -/
theorem Service.ofBlock_eq_of_givesAt {a b : Block} (hname : a.name = b.name)
    (h : ∀ key, Block.GivesAt key a b) : Service.ofBlock a = Service.ofBlock b := by
  simp only [ofBlock, hname, Block.scalar?_of_givesAt (.inl rfl) (h "image".toList),
    Block.scalar?_of_givesAt (.inr rfl) (h "restart".toList), Block.command?_of_givesAt (h _),
    Block.mappingsOf_of_givesAt (h _), Block.environment_of_givesAt (h _),
    Block.attachments_of_givesAt (h _), Block.dependencies_of_givesAt (h _),
    Block.sysctls_of_givesAt (h _), Block.capabilities_of_givesAt (h _)]

/-! ## Changed lines of one shape -/

section
variable {f : Line → Line} (h : ∀ l, (f l).SameShape l)
include h

/-- What keys give is found at new places if the blocks below them give the same. -/
theorem Block.keyed_withLines {α : Type} {ofKey : Block → Option α} {place : Int → Int} {c : Block}
    (hnumber : ∀ l, (f l).number = place l.number)
    (hkey : ∀ d ∈ c.childBlocks, ofKey (d.withLines f) = ofKey d) :
    (c.withLines f).keyed ofKey = placed place (c.keyed ofKey) := by
  rw [keyed, childBlocks_withLines h, List.filterMap_map, keyed, placed, List.map_filterMap]
  refine List.filterMap_congr fun d hd => ?_
  rw [Function.comp_apply, hkey d hd, withLines_header, hnumber, Option.map_map]
  rfl

/-- A service reads the same if its children have their keys and give the same. -/
theorem Service.ofBlock_withLines {b : Block} (hname : (b.withLines f).name = b.name)
    (hkeys : ∀ l ∈ b.children, (f l).key? = l.key?)
    (hgives : ∀ key c, b.child? key = some c → Block.GivesAs id key (c.withLines f) c) :
    Service.ofBlock (b.withLines f) = Service.ofBlock b := by
  refine ofBlock_eq_of_givesAt hname fun key => ?_
  have hchild := Block.child?_withLines h b hkeys key
  cases hb : b.child? key with
  | none => exact .inl ⟨by rw [hchild, hb, Option.map_none], hb⟩
  | some c =>
    exact .inr ⟨id, c.withLines f, c, strictMono_id, by rw [hchild, hb, Option.map_some], hb,
      hgives key c hb⟩

theorem Network.ofBlock_withLines {b : Block} (hname : (b.withLines f).name = b.name)
    (hkeys : ∀ l ∈ b.children, (f l).key? = l.key?)
    (hexternal : ∀ c, b.child? "external".toList = some c →
      ((f c.header).value.toLower == "true".toList) = (c.header.value.toLower == "true".toList))
    (hdriver : ∀ c, b.child? "driver".toList = some c →
      (f c.header).value.unquote = c.header.value.unquote) :
    Network.ofBlock (b.withLines f) = Network.ofBlock b := by
  have hchild := Block.child?_withLines h b hkeys
  simp only [ofBlock, hname, Block.scalar?, hchild, mk.injEq, true_and]
  constructor
  · cases hc : b.child? "external".toList with
    | none => rfl
    | some c => exact hexternal c hc
  · cases hc : b.child? "driver".toList with
    | none => rfl
    | some c => exact congrArg Text.nonempty? (hdriver c hc)

/-- The stack is the same if and only if each service and each network reads the same. -/
theorem Stack.ofDocument_map_eq_iff {doc : Document} : ofDocument (doc.map f) = ofDocument doc ↔
    (∀ b ∈ doc.blocks .service, Service.ofBlock (b.withLines f) = Service.ofBlock b) ∧
    ∀ b ∈ doc.blocks .network, Network.ofBlock (b.withLines f) = Network.ofBlock b := by
  have hnames : ((doc.blocks .volume).map (Block.withLines f)).map Block.name =
      (doc.blocks .volume).map Block.name := by
    rw [List.map_map]
    exact List.map_congr_left fun b hb => Document.name_of_mem_blocks_map h hb
  simp only [ofDocument, Document.blocks_map h, hnames, List.map_map, mk.injEq, and_true,
    List.map_inj_left, Function.comp_apply]

end

end ComposeLint
