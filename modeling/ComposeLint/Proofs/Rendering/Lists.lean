import ComposeLint.Proofs.Rendering.Layout
import ComposeLint.Proofs.Text.Cuts

/-! # Lists and mappings read back

A list is read the same in all of its forms: its entries are found in order, on lines in order, and
nothing below it is taken for a key. A mapping has its members as children and no entries. The
fields of a service are read through these two facts alone. -/

namespace ComposeLint

/-- What a reader finds in a block that holds a list of these texts. -/
structure Block.HoldsList (b : Block) (texts : List Text) : Prop where
  entries : b.entries.map Prod.snd = texts
  ordered : b.entries.Pairwise fun e f => e.1.number ≤ f.1.number
  childBlocks : b.childBlocks = []

/-- What a reader finds in a block that holds a mapping of these members. -/
structure Block.HoldsMapping (b : Block) (members : List Segment) : Prop where
  entries : b.entries = []
  childBlocks : ∃ n, b.childBlocks = Segment.blocks n members
  ordered : b.children.Pairwise (·.number < ·.number)

section
variable {α : Type} (entry : α → Text) (member : α → Segment) (values : List α)

/-- The values are the entries of a list; the field is missing only if there are none. -/
inductive ListedIn : Option Block → Prop
  | missing : values = [] → ListedIn none
  | list {child : Block} : child.HoldsList (values.map entry) → ListedIn (some child)

/-- The values are listed, or they are the members of a mapping. -/
inductive GivenIn : Option Block → Prop
  | listed {child? : Option Block} : ListedIn entry values child? → GivenIn child?
  | mapping {child : Block} : child.HoldsMapping (values.map member) → GivenIn (some child)

end

namespace Segment

/-! ## Single rows -/

theorem standsAt_bare {k : Nat} {key : Text} (hkey : key.isKeyName = true) :
    (bare k key).StandsAt k where
  indent := rfl
  key := rfl
  clean := fun r hr => List.mem_singleton.mp hr ▸ hkey
  body := fun r hr => by cases hr

theorem standsAt_scalar {k : Nat} {key value : Text} (hkey : key.isKeyName = true)
    (hvalue : value.isValue = true) : (scalar k key value).StandsAt k where
  indent := rfl
  key := rfl
  clean := fun r hr => List.mem_singleton.mp hr ▸ Row.isClean_pair hkey hvalue
  body := fun r hr => by cases hr

theorem value_scalar {k : Nat} {key value : Text} (hkey : key.isKeyName = true)
    (hvalue : value.isValue = true) (n : Int) : ((scalar k key value).block n).value = value :=
  Row.line_value (r := .pair k key value) n (Row.isClean_pair hkey hvalue)

/-- A key of a mapping, with no list below it. -/
structure IsMember (t : Segment) : Prop where
  standsAt : t.StandsAt 6
  noItem : ∀ r ∈ t.body, r.isItem = false

theorem isMember_bare {key : Text} (hkey : key.isKeyName = true) : (bare 6 key).IsMember :=
  ⟨standsAt_bare hkey, fun r hr => by cases hr⟩

theorem isMember_scalar {key value : Text} (hkey : key.isKeyName = true)
    (hvalue : value.isValue = true) : (scalar 6 key value).IsMember :=
  ⟨standsAt_scalar hkey hvalue, fun r hr => by cases hr⟩

/-! ## Lists in brackets -/

theorem mem_joinWith {separator : String} {c : Char} {parts : List Text}
    (h : c ∈ Text.joinWith separator parts) : c ∈ separator.toList ∨ ∃ t ∈ parts, c ∈ t := by
  rw [Text.joinWith] at h
  induction parts with
  | nil => cases h
  | cons first others ih =>
    cases others with
    | nil =>
      rw [List.intercalate_singleton] at h
      exact Or.inr ⟨first, by simp, h⟩
    | cons second rest =>
      rw [List.intercalate_cons_cons, List.mem_append, List.mem_append] at h
      rcases h with (h | h) | h
      · exact Or.inr ⟨first, by simp, h⟩
      · exact Or.inl h
      · rcases ih h with h | ⟨t, ht, h⟩
        · exact Or.inl h
        · exact Or.inr ⟨t, List.mem_cons_of_mem _ ht, h⟩

section
variable {entries : List Text} (h : ∀ e ∈ entries, e.isToken = true)
include h

/-- Entries without blanks and commas are found between the commas. -/
theorem pieces_joinWith_entries : (Text.joinWith ", " entries).pieces = entries := by
  rw [Text.pieces_joinWith]
  refine (List.flatMap_congr fun e he => ?_).trans (List.flatMap_singleton' entries)
  have htoken := Text.isToken_iff.mp (h e he)
  have htrim : e.trim = e := Text.trim_isValue (Text.isValue_of_isToken (h e he))
  have hcomma : ',' ∉ e := fun hmem => Text.ne_of_class (htoken.2 _ hmem) (d := ',') (by decide) rfl
  rw [Text.pieces_one hcomma (htrim.symm ▸ htoken.1), htrim]

theorem isValue_bracketed : (bracketed entries).isValue = true := by
  have hseparator : ", ".toList.all Text.isValueChar = true := by decide
  have hinner : ∀ c ∈ Text.joinWith ", " entries, Text.isValueChar c = true := by
    intro c hc
    rcases mem_joinWith hc with hc | ⟨e, he, hc⟩
    · exact List.all_eq_true.mp hseparator c hc
    · exact Text.isValueChar_of_isTokenChar ((Text.isToken_iff.mp (h e he)).2 c hc)
  refine Text.isValue_iff.mpr ⟨fun c hc => ?_, rfl, ?_⟩
  · rw [bracketed, List.mem_cons, List.mem_append, List.mem_singleton] at hc
    rcases hc with rfl | hc | rfl
    · decide
    · exact hinner c hc
    · decide
  · rw [bracketed, ← List.cons_append, List.getLast?_concat]
    decide

/-! ## Lists -/

omit h in
theorem isFlowList_of_value_nil {b : Block} (hvalue : b.value = []) : b.isFlowList = false := by
  rw [Block.isFlowList, hvalue]
  rfl

variable {key : Text} (hkey : key.isKeyName = true)
include hkey

theorem isClean_items {k : Nat} : ∀ r ∈ (items k key entries).rows, r.isClean = true := by
  intro r hr
  rcases List.mem_cons.mp hr with rfl | hr
  · exact hkey
  · obtain ⟨e, he, rfl⟩ := List.mem_map.mp hr
    exact h e he

theorem standsAt_items {k : Nat} (hk : 4 ≤ k) : (items k key entries).StandsAt 4 where
  indent := rfl
  key := rfl
  clean := isClean_items h hkey
  body := by
    intro r hr
    obtain ⟨e, he, rfl⟩ := List.mem_map.mp hr
    rcases hk.lt_or_eq with hlt | rfl
    · exact Or.inl hlt
    · exact Or.inr ⟨rfl, rfl⟩

theorem value_items {k : Nat} (n : Int) : ((items k key entries).block n).value = [] := by
  rw [Block.value, block, Row.line_value n (isClean_items h hkey _ List.mem_cons_self)]
  rfl

/-- The items of a list are all of its body, and no key is among them. -/
theorem block_items {k : Nat} (n : Int) :
    ((items k key entries).block n).entries =
        ((items k key entries).block n).body.map (fun l => (l, l.item)) ∧
      ((items k key entries).block n).childBlocks = [] := by
  have hclean := isClean_items (k := k) h hkey
  have hflow := isFlowList_of_value_nil (value_items (k := k) h hkey n)
  have hempty : entries = [] ∨ ((items k key entries).block n).childIndent? = some k := by
    cases entries with
    | nil => exact Or.inl rfl
    | cons e others =>
      refine Or.inr (childIndent?_block (fun r hr => hclean r (List.mem_cons_of_mem _ hr))
        (fun r hr => ?_) ⟨.item k e, by simp [items], rfl⟩ n)
      obtain ⟨e, he, rfl⟩ := List.mem_map.mp hr
      exact Nat.le_refl k
  rw [Block.entries, hflow, if_neg (by simp), Block.childBlocks]
  rcases hempty with rfl | hindent
  · exact ⟨rfl, rfl⟩
  · have hline : ∀ l ∈ ((items k key entries).block n).body,
        Block.isItemAt (some k) l = true ∧ Block.isKeyAt (some k) l = false := by
      intro l hl
      obtain ⟨r, hr, m, rfl⟩ := Row.exists_of_mem_lines hl
      have hr' := hclean r (List.mem_cons_of_mem _ hr)
      obtain ⟨e, he, rfl⟩ := List.mem_map.mp hr
      rw [Row.isItemAt_line hr', Row.isKeyAt_line hr']
      simp [Row.isItem, Row.indent]
    rw [hindent, List.filter_eq_self.mpr fun l hl => (hline l hl).1,
      Block.blocksAt_eq_nil fun l hl => (hline l hl).2]
    exact ⟨rfl, rfl⟩

theorem pairwise_items {k : Nat} (n : Int) :
    ((items k key entries).block n).entries.Pairwise fun e f => e.1.number < f.1.number := by
  rw [(block_items h hkey n).1, List.pairwise_map]
  exact (Row.pairwise_lines _ _).1

theorem holdsList_items {k : Nat} (n : Int) :
    ((items k key entries).block n).HoldsList entries where
  entries := by
    have hitems : ((items k key entries).block n).body.map Line.item =
        (entries.map (Row.item k)).map fun r => r.written.drop 2 :=
      Row.map_lines (fun r hr m => by
        obtain ⟨e, he, rfl⟩ := List.mem_map.mp hr
        exact Row.item_line (h e he) m) _
    rw [(block_items h hkey n).1, List.map_map]
    exact hitems.trans (List.map_map.trans (List.map_id' entries))
  ordered := (pairwise_items h hkey n).imp Int.le_of_lt
  childBlocks := (block_items h hkey n).2

theorem isClean_bracket :
    ∀ r ∈ (list .bracket key entries).rows, r.isClean = true := by
  intro r hr
  rw [List.mem_singleton.mp hr]
  exact Row.isClean_pair hkey (isValue_bracketed h)

theorem value_bracket (n : Int) :
    ((list .bracket key entries).block n).value = bracketed entries := by
  rw [Block.value, block, Row.line_value n (isClean_bracket h hkey _ (by simp [rows]))]
  rfl

theorem isFlowList_bracket (n : Int) : ((list .bracket key entries).block n).isFlowList = true :=
  Block.isFlowList_of_value (value_bracket h hkey n)

theorem holdsList_bracket (n : Int) : ((list .bracket key entries).block n).HoldsList entries := by
  have hentries : ((list .bracket key entries).block n).entries =
      entries.map fun e => (((list .bracket key entries).block n).header, e) :=
    (Block.entries_of_value (value_bracket h hkey n)).trans
      (congrArg (List.map _) (pieces_joinWith_entries h))
  refine ⟨?_, ?_, rfl⟩
  · rw [hentries, List.map_map]
    exact List.map_id' entries
  · rw [hentries, List.pairwise_map]
    exact List.pairwise_of_forall fun _ _ => Int.le_refl _

theorem holdsList_list (form : ListForm) (n : Int) :
    ((list form key entries).block n).HoldsList entries := by
  cases form with
  | block => exact holdsList_items h hkey n
  | compact => exact holdsList_items h hkey n
  | bracket => exact holdsList_bracket h hkey n

theorem standsAt_list (form : ListForm) : (list form key entries).StandsAt 4 := by
  cases form with
  | block => exact standsAt_items h hkey (by decide)
  | compact => exact standsAt_items h hkey (by decide)
  | bracket => exact ⟨rfl, rfl, isClean_bracket h hkey, fun r hr => by cases hr⟩

/-- Only brackets bring several entries on one line. -/
theorem pairwise_list {form : ListForm} (hform : form ≠ .bracket) (n : Int) :
    ((list form key entries).block n).entries.Pairwise fun e f => e.1.number < f.1.number := by
  cases form with
  | block => exact pairwise_items h hkey n
  | compact => exact pairwise_items h hkey n
  | bracket => exact absurd rfl hform

end

/-! ## Mappings -/

section
variable {key : Text} {members : List Segment} (hkey : key.isKeyName = true)
  (hmembers : ∀ t ∈ members, t.IsMember)
include hkey hmembers

theorem standsAt_mapping : (mapping key members).StandsAt 4 where
  indent := rfl
  key := rfl
  clean := by
    intro r hr
    rcases List.mem_cons.mp hr with rfl | hr
    · exact hkey
    · obtain ⟨t, ht, hr⟩ := List.mem_flatMap.mp hr
      exact (hmembers t ht).standsAt.clean r hr
  body := by
    intro r hr
    obtain ⟨t, ht, hr⟩ := List.mem_flatMap.mp hr
    have hstands := (hmembers t ht).standsAt
    left
    rcases List.mem_cons.mp hr with rfl | hr
    · have := hstands.indent
      omega
    · rcases hstands.body r hr with hlt | ⟨heq, -⟩ <;> omega

theorem holdsMapping_mapping (n : Int) : ((mapping key members).block n).HoldsMapping members where
  entries := by
    have hclean := (standsAt_mapping hkey hmembers).clean
    have hvalue : ((mapping key members).block n).value = [] := by
      rw [Block.value, block, Row.line_value n (hclean _ List.mem_cons_self)]
      rfl
    rw [Block.entries, isFlowList_of_value_nil hvalue, if_neg (by simp), List.map_eq_nil_iff,
      List.filter_eq_nil_iff]
    intro l hl
    obtain ⟨r, hr, m, rfl⟩ := Row.exists_of_mem_lines hl
    have hitem : r.isItem = false := by
      obtain ⟨t, ht, hr⟩ := List.mem_flatMap.mp hr
      rcases List.mem_cons.mp hr with rfl | hr
      · exact (hmembers t ht).standsAt.key
      · exact (hmembers t ht).noItem r hr
    rw [Block.isItemAt, Row.line_isListItem m (hclean r (List.mem_cons_of_mem _ hr)), hitem]
    simp
  childBlocks := ⟨n + 1, childBlocks_block rfl (fun t ht => (hmembers t ht).standsAt) n⟩
  ordered := by
    rw [Block.children, Block.content, List.filter_filter]
    exact (Row.pairwise_lines _ _).1.filter _

end

/-! ## Fields -/

section
variable {α : Type} {key : Text} {entry : α → Text} {member : α → Segment} {values : List α}
  (hkey : key.isKeyName = true) (hentries : ∀ v ∈ values, (entry v).isToken = true)
include hkey hentries

theorem listedIn_list? (form : ListForm) (m : Int) :
    ListedIn entry values ((list? form key entry values).map (block m)) := by
  unfold list?
  split
  · next h => exact .missing (List.isEmpty_iff.mp h)
  · exact .list (holdsList_list (List.forall_mem_map.mpr hentries) hkey form m)

theorem standsAt_list? {form : ListForm} {t : Segment} (ht : list? form key entry values = some t) :
    t.StandsAt 4 ∧ t.header.key? = some key := by
  unfold list? at ht
  split at ht
  · cases ht
  · cases ht
    refine ⟨standsAt_list (List.forall_mem_map.mpr hentries) hkey form, ?_⟩
    cases form <;> rfl

variable (hmembers : ∀ v ∈ values, (member v).IsMember)
include hmembers

omit hentries in
theorem holdsMapping_mapping? (m : Int) :
    (values = [] ∧ (mapping? key member values).map (block m) = none) ∨
      ∃ child, (mapping? key member values).map (block m) = some child ∧
        child.HoldsMapping (values.map member) := by
  unfold mapping?
  split
  · next h => exact Or.inl ⟨List.isEmpty_iff.mp h, rfl⟩
  · exact Or.inr ⟨_, rfl, holdsMapping_mapping hkey (List.forall_mem_map.mpr hmembers) m⟩

theorem givenIn_field? (form : Form) (m : Int) :
    GivenIn entry member values ((field? form key entry member values).map (block m)) := by
  cases form with
  | list form => exact .listed (listedIn_list? hkey hentries form m)
  | mapping =>
    rcases holdsMapping_mapping? hkey hmembers m with ⟨hnil, hnone⟩ | ⟨child, hsome, hmapping⟩
    · exact hnone ▸ .listed (.missing hnil)
    · exact hsome ▸ .mapping hmapping

/-- Unless the list is in brackets, no two entries are on one line. -/
theorem pairwise_field? {form : Form} (hform : form ≠ .list .bracket) {m : Int} {child : Block}
    (h : (field? form key entry member values).map (block m) = some child) :
    child.entries.Pairwise fun e f => e.1.number < f.1.number := by
  cases form with
  | list form =>
    unfold field? list? at h
    dsimp only at h
    split at h
    · cases h
    · cases h
      exact pairwise_list (List.forall_mem_map.mpr hentries) hkey (fun he => hform (he ▸ rfl)) m
  | mapping =>
    rcases holdsMapping_mapping? hkey hmembers m with ⟨-, hnone⟩ | ⟨child', hsome, hmapping⟩
    · cases hnone.symm.trans h
    · obtain rfl : child' = child := Option.some.inj (hsome.symm.trans h)
      rw [hmapping.entries]
      exact List.Pairwise.nil

theorem standsAt_field? {form : Form} {t : Segment}
    (ht : field? form key entry member values = some t) :
    t.StandsAt 4 ∧ t.header.key? = some key := by
  cases form with
  | list form => exact standsAt_list? hkey hentries ht
  | mapping =>
    unfold field? mapping? at ht
    dsimp only at ht
    split at ht
    · cases ht
    · cases ht
      exact ⟨standsAt_mapping hkey (List.forall_mem_map.mpr hmembers), rfl⟩

end

end Segment

end ComposeLint
