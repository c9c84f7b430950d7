import ComposeLint.Proofs.Rendering.Lists
import ComposeLint.Proofs.Rendering.Words
import ComposeLint.Proofs.Sorting

/-! # Fields read back

Each reader of a service finds the values that its field was written from. It sees the field as a
list, as a mapping, or not at all (`GivenIn`); in each case what it finds stands on lines in order,
so putting it in line order changes nothing. -/

namespace ComposeLint

/-! ## Single values -/

theorem Block.scalar?_eq {b : Block} {key key' : Text} {value? : Option Text} {m : Int} {k : Nat}
    (h : b.child? key = (value?.map (Segment.scalar k key')).map (Segment.block m))
    (hkey : key'.isKeyName = true) (hvalue : ∀ t ∈ value?, t.isToken = true) :
    b.scalar? key = value? := by
  rw [scalar?, h]
  cases value? with
  | none => rfl
  | some t =>
    have htoken := hvalue t rfl
    rw [Option.map_some, Option.map_some, Option.bind_some,
      Segment.value_scalar hkey (Text.isValue_of_isToken htoken), Text.unquote_isToken htoken,
      Text.nonempty?_isToken htoken]

/-! ## Members of mappings -/

theorem Variable.isMember {v : Variable} (h : v.isCanonical = true) : v.member.IsMember := by
  have hkey := Variable.isKeyName h
  simp only [isCanonical, Bool.and_eq_true] at h
  unfold member
  cases hv : v.value? with
  | none => exact Segment.isMember_bare hkey
  | some value =>
    rw [hv] at h
    exact Segment.isMember_scalar hkey (Text.isValue_of_isToken (Text.isToken_of_isBare h.2))

theorem Block.variableOfKey_member {v : Variable} (h : v.isCanonical = true) (n : Int) :
    variableOfKey (v.member.header.line n) = v := by
  have hclean := (Variable.isMember h).standsAt.clean _ List.mem_cons_self
  have hkey := Text.unquote_isToken (Text.isToken_of_isKeyName (Variable.isKeyName h))
  have hvalue : v.member.header.key? = some v.key ∧
      v.member.header.value.unquote.nonempty? = v.value? := by
    simp only [Variable.isCanonical, Bool.and_eq_true] at h
    unfold Variable.member
    cases hv : v.value? with
    | none => exact ⟨rfl, rfl⟩
    | some value =>
      rw [hv] at h
      have htoken := Text.isToken_of_isBare h.2
      refine ⟨rfl, ?_⟩
      change (Text.unquote value).nonempty? = some value
      rw [Text.unquote_isToken htoken, Text.nonempty?_isToken htoken]
  rw [variableOfKey, Row.line_key? n hclean, Row.line_value n hclean, hvalue.1, hvalue.2,
    Option.getD_some, hkey]

theorem Setting.isMember {s : Setting} (h : s.isCanonical = true) : s.member.IsMember := by
  simp only [isCanonical, Bool.and_eq_true] at h
  exact Segment.isMember_scalar (Text.isKeyName_of_isSettingName h.1)
    (Text.isValue_of_isToken (Text.isToken_of_isBare h.2))

theorem Block.settingOfKey?_member {s : Setting} (h : s.isCanonical = true) (n : Int) :
    settingOfKey? (s.member.header.line n) = some s := by
  have hclean := (Setting.isMember h).standsAt.clean _ List.mem_cons_self
  simp only [Setting.isCanonical, Bool.and_eq_true] at h
  have htoken := Text.isToken_of_isBare h.2
  rw [settingOfKey?, Row.line_key? n hclean, Row.line_value n hclean, Setting.member,
    Segment.scalar, Row.value, Text.unquote_isToken htoken, Text.nonempty?_isToken htoken]
  rfl

theorem Attachment.standsAt_address {a : Attachment} (h : a.isCanonical = true) :
    ∀ t ∈ a.address?.toList.map (Segment.scalar 8 "ipv4_address".toList), t.StandsAt 8 := by
  simp only [isCanonical, Bool.and_eq_true] at h
  intro t ht
  obtain ⟨ip, hip, rfl⟩ := List.mem_map.mp ht
  rw [Option.mem_toList.mp hip] at h
  exact Segment.standsAt_scalar (by decide) (Text.isValue_of_isToken (Text.isToken_of_isBare h.2))

/-- Only an address stands below the name of a network. -/
theorem Attachment.isMember {a : Attachment} (h : a.isCanonical = true) : a.member.IsMember := by
  have haddress := standsAt_address h
  simp only [isCanonical, Bool.and_eq_true] at h
  have hbody : ∀ r ∈ a.member.body, r.isClean = true ∧ 6 < r.indent ∧ r.isItem = false := by
    intro r hr
    obtain ⟨t, ht, hr⟩ := List.mem_flatMap.mp hr
    have hstands := haddress t ht
    obtain ⟨ip, -, rfl⟩ := List.mem_map.mp ht
    obtain rfl := List.mem_singleton.mp hr
    exact ⟨hstands.clean _ List.mem_cons_self, (by decide : 6 < 8), rfl⟩
  refine ⟨⟨rfl, rfl, fun r hr => ?_, fun r hr => Or.inl (hbody r hr).2.1⟩,
    fun r hr => (hbody r hr).2.2⟩
  rcases List.mem_cons.mp hr with rfl | hr
  · exact Text.isKeyName_of_isNameOf h.1
  · exact (hbody r hr).1

theorem Block.attachmentOf_member {a : Attachment} (h : a.isCanonical = true) (n : Int) :
    attachmentOf (a.member.block n) = a := by
  have hclean := (Attachment.isMember h).standsAt.clean _ List.mem_cons_self
  have haddress : (a.member.block n).scalar? "ipv4_address".toList = a.address? := by
    obtain ⟨m, hm⟩ := Segment.exists_child?_block (s := a.member) rfl
      (Attachment.standsAt_address h) n "ipv4_address".toList
    have hfind : (a.address?.toList.map (Segment.scalar 8 "ipv4_address".toList)).find?
        (fun t => t.header.key? == some "ipv4_address".toList) =
          a.address?.map (Segment.scalar 8 "ipv4_address".toList) := by
      cases a.address? with
      | none => rfl
      | some ip =>
        exact List.find?_cons_of_pos (by simp only [Segment.scalar, Row.key?, beq_self_eq_true])
    rw [hfind] at hm
    simp only [Attachment.isCanonical, Bool.and_eq_true, Option.all_eq_true] at h
    exact scalar?_eq hm (by decide) fun ip hip => Text.isToken_of_isBare (h.2 ip hip)
  rw [attachmentOf, haddress, Segment.block, Row.line_key? n hclean]
  rfl

namespace Block

/-! ## Readers of lists -/

theorem filterMap_of_eq_some {α : Type} {f : α → Option α} {values : List α}
    (h : ∀ v ∈ values, f v = some v) : values.filterMap f = values :=
  (List.filterMap_congr h).trans List.filterMap_some

/-- A reader that finds a value in every line finds them all. -/
theorem filterMap_of_map_eq {α β : Type} {f : α → Option β} {lines : List α} {values : List β}
    (h : lines.map f = values.map some) : lines.filterMap f = values := by
  have hread := congrArg (List.filterMap id) h
  rw [List.filterMap_map, List.filterMap_map, Function.id_comp, Function.id_comp] at hread
  exact hread.trans List.filterMap_some

theorem map_of_eq {α : Type} {f : α → α} {values : List α} (h : ∀ v ∈ values, f v = v) :
    values.map f = values :=
  (List.map_congr_left h).trans (List.map_id' values)

section
variable {child : Block} {texts : List Text} (h : child.HoldsList texts)
include h

theorem HoldsList.children : child.children = [] := by
  rw [children_eq, h.childBlocks, List.map_nil]

theorem HoldsList.map_entries {β : Type} (f : Text → β) :
    child.entries.map (fun e => f e.2) = texts.map f := by
  rw [← h.entries, List.map_map]
  rfl

theorem HoldsList.filterMap_entries {β : Type} (f : Text → Option β) :
    inLineOrder (child.entries.filterMap fun e => (f e.2).map (e.1.number, ·)) =
      texts.filterMap f := by
  rw [inLineOrder_filterMap (fun e => f e.2) h.ordered, ← h.entries, List.filterMap_map]
  rfl

/-- No entry of a list of tokens is left out for being empty. -/
theorem HoldsList.filter_entries (htexts : ∀ t ∈ texts, t.isToken = true) :
    child.entries.filter (!·.2.isEmpty) = child.entries := by
  refine List.filter_eq_self.mpr fun e he => ?_
  have hmem : e.2 ∈ texts := h.entries ▸ List.mem_map_of_mem he
  simp [(Text.isToken_iff.mp (htexts e.2 hmem)).1]

end

section
variable {α : Type} {child : Block} {member : α → Segment} {values : List α}
  (h : child.HoldsMapping (values.map member))
include h

theorem HoldsMapping.map_childBlocks {β : Type} {f : Block → β} {g : α → β}
    (hf : ∀ v ∈ values, ∀ n, f ((member v).block n) = g v) :
    child.childBlocks.map f = values.map g := by
  obtain ⟨n, hn⟩ := h.childBlocks
  rw [hn, Segment.map_blocks hf]

theorem HoldsMapping.map_children {β : Type} {f : Line → β} {g : α → β}
    (hf : ∀ v ∈ values, ∀ n, f ((member v).header.line n) = g v) :
    child.children.map f = values.map g := by
  rw [children_eq, List.map_map]
  exact h.map_childBlocks hf

end

variable {b : Block}

theorem mappingsOf_eq {key : Text} {values : List Mapping}
    (h : ListedIn Mapping.entry values (b.child? key))
    (hvalues : ∀ m ∈ values, m.isCanonical = true) : b.mappingsOf key = values := by
  have hread : ∀ m ∈ values, (if m.entry.withoutQuotes.isMappingEntry then none
      else Mapping.read? m.entry.withoutQuotes) = some m := by
    intro m hm
    have htoken := Mapping.isToken_entry (hvalues m hm)
    rw [Text.withoutQuotes_isValue (Text.isValue_of_isToken htoken),
      Text.isMappingEntry_isToken htoken, if_neg (by simp), Mapping.read?_entry (hvalues m hm)]
  rw [mappingsOf, entriesOf]
  generalize b.child? key = child? at h
  cases h with
  | missing hnil => simp [hnil]
  | list hlist =>
    dsimp only
    rw [hlist.map_entries, List.map_map, List.filterMap_map]
    exact filterMap_of_eq_some hread

theorem capabilities_eq {key : Text} {values : List Text} (h : ListedIn id values (b.child? key))
    (hvalues : ∀ t ∈ values, t.isToken = true) :
    ((b.entriesOf key).filter (!·.2.isEmpty)).map (·.2.unquote) = values := by
  rw [entriesOf]
  generalize b.child? key = child? at h
  cases h with
  | missing hnil => simp [hnil]
  | list hlist =>
    rw [List.map_id] at hlist
    dsimp only
    rw [hlist.filter_entries hvalues, hlist.map_entries]
    exact map_of_eq fun t ht => Text.unquote_isToken (hvalues t ht)

/-! ## Readers of lists and mappings -/

theorem environment_eq {values : List Variable}
    (h : GivenIn Variable.entry Variable.member values (b.child? "environment".toList))
    (hvalues : ∀ v ∈ values, v.isCanonical = true) : b.environment = values := by
  rw [environment]
  generalize b.child? "environment".toList = child? at h
  rcases h with (hnil | hlist) | hmapping
  · exact hnil.symm
  · dsimp only
    rw [hlist.children, List.map_nil, List.append_nil]
    refine (hlist.filterMap_entries variableOfItem?).trans ?_
    rw [List.filterMap_map]
    exact filterMap_of_eq_some fun v hv => variableOfItem?_entry (hvalues v hv)
  · dsimp only
    rw [hmapping.entries, List.filterMap_nil, List.nil_append,
      inLineOrder_eq (hmapping.ordered.imp Int.le_of_lt)]
    exact (hmapping.map_children fun v hv n => variableOfKey_member (hvalues v hv) n).trans
      (List.map_id' values)

theorem sysctls_eq {values : List Setting}
    (h : GivenIn Setting.entry Setting.member values (b.child? "sysctls".toList))
    (hvalues : ∀ s ∈ values, s.isCanonical = true) : b.sysctls = values := by
  rw [sysctls]
  generalize b.child? "sysctls".toList = child? at h
  rcases h with (hnil | hlist) | hmapping
  · exact hnil.symm
  · dsimp only
    rw [hlist.children, List.filterMap_nil, List.append_nil]
    refine (hlist.filterMap_entries settingOfItem?).trans ?_
    rw [List.filterMap_map]
    exact filterMap_of_eq_some fun s hs => settingOfItem?_entry (hvalues s hs)
  · dsimp only
    rw [hmapping.entries, List.filterMap_nil, List.nil_append,
      inLineOrder_filterMap settingOfKey? (hmapping.ordered.imp Int.le_of_lt)]
    exact filterMap_of_map_eq
      (hmapping.map_children fun s hs n => settingOfKey?_member (hvalues s hs) n)

/-- A list has no place for addresses. -/
theorem attachments_of_listed {values : List Attachment}
    (h : ListedIn Attachment.network values (b.child? "networks".toList))
    (hvalues : ∀ a ∈ values, a.network.isToken = true ∧ a.address? = none) :
    b.attachments = values := by
  rw [attachments]
  generalize b.child? "networks".toList = child? at h
  rcases h with hnil | hlist
  · exact hnil.symm
  · have htokens : ∀ t ∈ values.map Attachment.network, t.isToken = true := by
      intro t ht
      obtain ⟨a, ha, rfl⟩ := List.mem_map.mp ht
      exact (hvalues a ha).1
    dsimp only
    rw [hlist.childBlocks, List.map_nil, List.append_nil, hlist.filter_entries htokens]
    refine (inLineOrder_eq hlist.ordered).trans ?_
    rw [hlist.map_entries fun t => (⟨t.unquote, none⟩ : Attachment), List.map_map]
    refine map_of_eq fun a ha => ?_
    obtain ⟨hnetwork, haddress⟩ := hvalues a ha
    rw [Function.comp_apply, Text.unquote_isToken hnetwork, ← haddress]

theorem attachments_of_mapping {values : List Attachment} {child : Block}
    (hchild : b.child? "networks".toList = some child)
    (h : child.HoldsMapping (values.map Attachment.member))
    (hvalues : ∀ a ∈ values, a.isCanonical = true) : b.attachments = values := by
  have hordered : child.childBlocks.Pairwise fun a b => a.header.number ≤ b.header.number := by
    have := h.ordered.imp Int.le_of_lt
    rwa [children_eq, List.pairwise_map] at this
  rw [attachments, hchild]
  dsimp only
  rw [h.entries, List.filter_nil, List.map_nil, List.nil_append, inLineOrder_eq hordered]
  exact (h.map_childBlocks fun a ha n => attachmentOf_member (hvalues a ha) n).trans
    (List.map_id' values)

/-- On lines of their own, dependencies keep their order whatever their names are. -/
theorem dependencies_eq {member : Text → Segment} {values : List Text}
    (h : GivenIn id member values (b.child? "depends_on".toList))
    (hmember : ∀ t ∈ values, ∀ n, ((member t).header.line n).key? = some t)
    (hvalues : ∀ t ∈ values, t.isToken = true)
    (hlines : ∀ child, b.child? "depends_on".toList = some child →
      child.entries.Pairwise fun e f => e.1.number < f.1.number) :
    b.dependencies = values := by
  rw [dependencies]
  generalize b.child? "depends_on".toList = child? at h hlines
  rcases h with (hnil | hlist) | hmapping
  · exact hnil.symm
  · rw [List.map_id] at hlist
    dsimp only
    rw [hlist.children, List.map_nil, List.append_nil, hlist.filter_entries hvalues,
      mergeSort_of_lines (List.pairwise_map.mpr (hlines _ rfl)), List.map_map]
    exact (hlist.map_entries Text.unquote).trans
      (map_of_eq fun t ht => Text.unquote_isToken (hvalues t ht))
  · dsimp only
    rw [hmapping.entries, List.filter_nil, List.map_nil, List.nil_append,
      mergeSort_of_lines (List.pairwise_map.mpr hmapping.ordered), List.map_map]
    refine (hmapping.map_children fun t ht n => ?_).trans (List.map_id' values)
    rw [Function.comp_apply, hmember t ht n, Option.getD_some]

/-! ## Commands -/

theorem commandPart?_item {k : Nat} {text : Text} (h : text.isToken = true) (n : Int) :
    commandPart? ((Row.item k text).line n) = some text := by
  have hclean : (Row.item k text).isClean = true := h
  rw [commandPart?, Row.line_inScalar n hclean, Row.line_isListItem n hclean, if_neg (by simp),
    Row.isItem, if_pos rfl, Row.item_line h, Text.nonempty?_isToken h, Option.map_some,
    Text.unquote_isToken h]

/-- The parts of a command are the items below its key. -/
theorem filterMap_commandPart? {k : Nat} {key : Text} {words : List Text}
    (hkey : key.isKeyName = true) (hwords : ∀ t ∈ words, t.isToken = true) (n : Int) :
    ((Segment.items k key words).block n).content.filterMap commandPart? = words := by
  have hclean := Segment.isClean_items (k := k) hwords hkey
  have hparts : (Row.lines (n + 1) (words.map (.item k))).map commandPart? =
      (words.map (Row.item k)).map fun r => some (r.written.drop 2) :=
    Row.map_lines (fun r hr m => by
      obtain ⟨t, ht, rfl⟩ := List.mem_map.mp hr
      exact commandPart?_item (hwords t ht) m) _
  rw [Segment.content_block (fun r hr => hclean r (List.mem_cons_of_mem _ hr))]
  refine filterMap_of_map_eq (hparts.trans ?_)
  rw [List.map_map]
  rfl

theorem command?_of_list {form : ListForm} {key : Text} {words : List Text} {m : Int}
    (h : b.child? "command".toList = some ((Segment.list form key words).block m))
    (hkey : key.isKeyName = true) (hne : words ≠ []) (hwords : ∀ t ∈ words, t.isToken = true) :
    b.command? = some (.parts words) := by
  have hitems (k : Nat)
      (h : b.child? "command".toList = some ((Segment.items k key words).block m)) :
      b.command? = some (.parts words) := by
    have hvalue := Segment.value_items (k := k) hwords hkey m
    simp only [command?, h, Option.bind_eq_bind, Option.bind_some,
      Segment.isFlowList_of_value_nil hvalue, hvalue, filterMap_commandPart? hkey hwords]
    simp [hne]
  cases form with
  | block => exact hitems 6 h
  | compact => exact hitems 4 h
  | bracket =>
    have hwords' := (Segment.holdsList_bracket hwords hkey m).map_entries Text.unquote
    rw [map_of_eq fun t ht => Text.unquote_isToken (hwords t ht)] at hwords'
    simp only [command?, h, Option.bind_eq_bind, Option.bind_some,
      Segment.isFlowList_bracket hwords hkey, if_true, hwords']

theorem command?_of_scalar {k : Nat} {key text : Text} {m : Int}
    (h : b.child? "command".toList = some ((Segment.scalar k key text).block m))
    (hkey : key.isKeyName = true) (htext : text.isToken = true) :
    b.command? = some (.line text) := by
  have hvalue := Text.isValue_of_isToken htext
  have hread := Segment.value_scalar (k := k) hkey hvalue m
  have hflow : ((Segment.scalar k key text).block m).isFlowList = false := by
    rw [isFlowList, hread]
    obtain ⟨c, rest, rfl⟩ := List.exists_cons_of_ne_nil (Text.isToken_iff.mp htext).1
    have hc := Text.ne_of_class ((Text.isToken_iff.mp htext).2 c (by simp)) (d := '[') (by decide)
    simp [hc]
  simp only [command?, h, Option.bind_eq_bind, Option.bind_some, hflow, hread,
    Text.isScalarHeader_isValue hvalue, Text.unquote_isToken htext]
  simp [(Text.isToken_iff.mp htext).1]

end Block

end ComposeLint
