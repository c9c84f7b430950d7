import ComposeLint.Proofs.StoreAnswers
import ComposeLint.Proofs.Text.Ends

/-! # Which entries of a file are snippets

A file offers a list of entries, and each of them is a snippet or is passed over. What a snippet needs
can be told from the values of four keys alone (`Snippet.isTemplate`), and where it is all there, the
snippet has these values as they are, less the line breaks at the end of the code. So what is read is
filled, and an entry that says no more than the snippet does is valid and gives the snippet again. -/

namespace ComposeLint

namespace Yaml.Value

/-- Values made of null, truth values, numbers, texts, lists and mappings. What lies deeper than was
asked for is a list or a mapping too. -/
inductive IsPlain : Value → Prop
  | null : IsPlain (.atom .null)
  | bool (b : Bool) : IsPlain (.atom (.bool b))
  | integer (n : Int) : IsPlain (.atom (.integer n))
  | float (x : Binary64) : IsPlain (.atom (.float x))
  | notNumber : IsPlain (.atom .notNumber)
  | string (t : Text) : IsPlain (.atom (.string t))
  | list {items : List Value} (h : ∀ v ∈ items, IsPlain v) : IsPlain (.list items)
  | mapping {pairs : List (Key × Value)} (h : ∀ p ∈ pairs, IsPlain p.2) : IsPlain (.mapping pairs)
  | deeper : IsPlain .other

variable {pairs : List (Key × Value)}

theorem exists_mem_of_get? {key : Text} {v : Value} (h : get? key pairs = some v) :
    ∃ p ∈ pairs, p.2 = v := by
  obtain ⟨p, hp, rfl⟩ := Option.map_eq_some_iff.mp h
  exact ⟨p, List.mem_of_find?_eq_some hp, rfl⟩

/-- What a plain mapping has for a key is plain. -/
theorem IsPlain.get? (h : (Value.mapping pairs).IsPlain) (key : Text) :
    ∀ v ∈ Value.get? key pairs, v.IsPlain := by
  intro v hv
  obtain ⟨p, hp, rfl⟩ := exists_mem_of_get? hv
  cases h with
  | mapping h => exact h p hp

end Yaml.Value

namespace Snippet

open Yaml

/-! ## What a snippet needs -/

def isFilledText : Option Value → Bool
  | some (.atom (.string t)) => !t.isVacant
  | _ => false

def isTextOrNothing : Option Value → Bool
  | none | some (.atom .null) | some (.atom (.string _)) => true
  | _ => false

/-- A mapping whose name, icon and code are texts with more than blanks in them, and whose description
is absent, null or a text. -/
def isTemplate : Value → Bool
  | .mapping pairs =>
    isFilledText (Value.get? "name".toList pairs) && isFilledText (Value.get? "icon".toList pairs) &&
      isTextOrNothing (Value.get? "description".toList pairs) &&
      isFilledText (Value.get? "code".toList pairs)
  | _ => false

/-- The snippet has what an entry says, its code without the line breaks at the end. -/
structure IsGivenBy (s : Snippet) (pairs : List (Key × Value)) : Prop where
  name : Value.get? "name".toList pairs = some (.atom (.string s.name))
  icon : Value.get? "icon".toList pairs = some (.atom (.string s.icon))
  description : Value.get? "description".toList pairs =
      s.description?.map (fun t => .atom (.string t)) ∨
    Value.get? "description".toList pairs = some (.atom .null) ∧ s.description? = none
  code : ∃ breaks, Value.get? "code".toList pairs =
    some (.atom (.string (s.code ++ List.replicate breaks '\n')))
  code_end : s.code.getLast? ≠ some '\n'

/-- None of the texts that a snippet needs is blank. -/
structure IsFilled (s : Snippet) : Prop where
  name : s.name.isVacant = false
  icon : s.icon.isVacant = false
  code : s.code.isVacant = false

/-- The entries of a value: the items of a list, or those of the list of templates in a mapping. Any
other value has none. -/
inductive Offers : Value → List Value → Prop
  | list (items : List Value) : Offers (.list items) items
  | templates {pairs : List (Key × Value)} {items : List Value}
      (h : Value.get? "templates".toList pairs = some (.list items)) : Offers (.mapping pairs) items
  | nothing {v : Value} (hlist : ∀ items, v ≠ .list items)
      (htemplates : ∀ pairs items, v = .mapping pairs →
        Value.get? "templates".toList pairs ≠ some (.list items)) : Offers v []

theorem offers_entriesOf (v : Value) : Offers v (entriesOf v) := by
  unfold entriesOf
  split
  · exact .list _
  · next pairs =>
    split
    · next items h => exact .templates h
    · next h =>
      refine .nothing nofun fun pairs' items heq => ?_
      obtain rfl := Value.mapping.inj heq
      exact h items
  · next hlist hmapping =>
    exact .nothing (fun items heq => hlist items heq) fun pairs _ heq => absurd heq (hmapping pairs)

/-! ## One field -/

section Field

variable {v? : Option Value} (h : ∀ v ∈ v?, v.IsPlain)
include h

/-- Whether a text is there can be told from the value. -/
theorem filled?_cases : isFilledText v? = false ∧ filled? v? = none ∨
    ∃ t, isFilledText v? = true ∧ filled? v? = some t ∧ v? = some (.atom (.string t)) ∧
      t.isVacant = false := by
  cases v? with
  | none => exact .inl ⟨rfl, rfl⟩
  | some v =>
    cases h v rfl with
    | string t =>
      cases ht : t.isVacant with
      | true => exact .inl ⟨by rw [isFilledText, ht]; rfl, by simp [filled?, text?, ht]⟩
      | false =>
        exact .inr ⟨t, by rw [isFilledText, ht]; rfl, by simp [filled?, text?, ht], rfl, ht⟩
    | null | bool | integer | float | notNumber | list | mapping | deeper => exact .inl ⟨rfl, rfl⟩

theorem optional?_cases : isTextOrNothing v? = false ∧ optional? v? = none ∨
    ∃ t?, isTextOrNothing v? = true ∧ optional? v? = some t? ∧
      (v? = t?.map (fun t => .atom (.string t)) ∨ v? = some (.atom .null) ∧ t? = none) := by
  cases v? with
  | none => exact .inr ⟨none, rfl, rfl, .inl rfl⟩
  | some v =>
    cases h v rfl with
    | null => exact .inr ⟨none, rfl, rfl, .inr ⟨rfl, rfl⟩⟩
    | string t => exact .inr ⟨some t, rfl, rfl, .inl rfl⟩
    | bool | integer | float | notNumber | list | mapping | deeper => exact .inl ⟨rfl, rfl⟩

end Field

/-! ## One entry -/

/-- The snippet of an entry as it is validated, with its code as it is given. -/
def validated? : Value → Option Snippet
  | .mapping pairs => do
    let name ← filled? (Value.get? "name".toList pairs)
    let icon ← filled? (Value.get? "icon".toList pairs)
    let description? ← optional? (Value.get? "description".toList pairs)
    let code ← filled? (Value.get? "code".toList pairs)
    return { name, icon, description?, code }
  | _ => none

/-- What is read is what was validated, less the line breaks at the end of the code. -/
theorem ofValue?_eq (v : Value) : ofValue? v =
    (validated? v).map fun s => { s with code := s.code.dropEndWhile (· == '\n') } := by
  cases v with
  | mapping pairs =>
    simp only [ofValue?, validated?]
    cases filled? (Value.get? "name".toList pairs) with
    | none => rfl
    | some name =>
      cases filled? (Value.get? "icon".toList pairs) with
      | none => rfl
      | some icon =>
        cases optional? (Value.get? "description".toList pairs) with
        | none => rfl
        | some description? => cases filled? (Value.get? "code".toList pairs) <;> rfl
  | atom | list | other => rfl

/-- The end of a code is line breaks only, which are blanks, so what is left of it is filled. -/
theorem code_of_dropEndWhile {t : Text} (h : t.isVacant = false) :
    (∃ breaks, t = t.dropEndWhile (· == '\n') ++ List.replicate breaks '\n') ∧
      (t.dropEndWhile (· == '\n')).getLast? ≠ some '\n' ∧
      Text.isVacant (t.dropEndWhile (· == '\n')) = false := by
  obtain ⟨tail, ht, htail⟩ := Text.exists_dropEndWhile_append (· == '\n') t
  have hbreaks : tail = List.replicate tail.length '\n' :=
    List.eq_replicate_iff.mpr ⟨rfl, fun c hc => beq_iff_eq.mp (htail c hc)⟩
  refine ⟨⟨tail.length, hbreaks ▸ ht⟩, fun hlast => ?_, ?_⟩
  · have hidle := Text.dropEndWhile_dropEndWhile (· == '\n') t
    rw [Text.dropEndWhile_eq_rdropWhile (· == '\n') (t.dropEndWhile _),
      List.rdropWhile_eq_self_iff] at hidle
    have hne : t.dropEndWhile (· == '\n') ≠ [] := fun hnil => by rw [hnil] at hlast; cases hlast
    rw [List.getLast?_eq_some_getLast hne] at hlast
    exact hidle hne (beq_iff_eq.mpr (Option.some.inj hlast))
  · rw [Bool.eq_false_iff, ne_eq, Text.isVacant, List.all_eq_true]
    intro hblank
    have hall : t.isVacant = true := by
      rw [Text.isVacant, List.all_eq_true, ht]
      intro c hc
      rcases List.mem_append.mp hc with hc | hc
      · exact hblank c hc
      · rw [beq_iff_eq.mp (htail c hc)]
        decide
    rw [h] at hall
    cases hall

/-- An entry that has all a snippet needs gives one, and any other gives none. -/
theorem ofValue?_cases {v : Value} (h : v.IsPlain) : isTemplate v = false ∧ ofValue? v = none ∨
    isTemplate v = true ∧ ∃ s, ofValue? v = some s ∧
      (∃ pairs, v = .mapping pairs ∧ s.IsGivenBy pairs) ∧ s.IsFilled := by
  cases h with
  | null | bool | integer | float | notNumber | string | list | deeper => exact .inl ⟨rfl, rfl⟩
  | @mapping pairs hpairs =>
    have hplain := Value.IsPlain.get? (.mapping hpairs)
    simp only [isTemplate, ofValue?]
    -- One after the other, a field is there or the rest of the entry does not matter.
    rcases filled?_cases (hplain "name".toList) with
      ⟨hneeds, hread⟩ | ⟨name, hneeds, hread, hname, hnamed⟩ <;> rw [hneeds, hread]
    · exact .inl ⟨rfl, rfl⟩
    rcases filled?_cases (hplain "icon".toList) with
      ⟨hneeds, hread⟩ | ⟨icon, hneeds, hread, hicon, hshown⟩ <;> rw [hneeds, hread]
    · exact .inl ⟨rfl, rfl⟩
    rcases optional?_cases (hplain "description".toList) with
      ⟨hneeds, hread⟩ | ⟨description?, hneeds, hread, hdescription⟩ <;> rw [hneeds, hread]
    · exact .inl ⟨rfl, rfl⟩
    rcases filled?_cases (hplain "code".toList) with
      ⟨hneeds, hread⟩ | ⟨code, hneeds, hread, hcode, hcoded⟩ <;> rw [hneeds, hread]
    · exact .inl ⟨rfl, rfl⟩
    obtain ⟨⟨breaks, hbreaks⟩, hend, hleft⟩ := code_of_dropEndWhile hcoded
    have hgiven : Value.get? "code".toList pairs = some (.atom (.string
        (code.dropEndWhile (· == '\n') ++ List.replicate breaks '\n'))) := by rw [← hbreaks, hcode]
    exact .inr ⟨rfl, _, rfl, ⟨pairs, rfl, hname, hicon, hdescription, ⟨breaks, hgiven⟩, hend⟩,
      hnamed, hshown, hleft⟩

/-! ## All entries -/

/-- The entry that says what the snippet is, and no more. -/
def toValue (s : Snippet) : Value :=
  .mapping [(.atom (.string "name".toList), .atom (.string s.name)),
    (.atom (.string "icon".toList), .atom (.string s.icon)),
    (.atom (.string "description".toList),
      s.description?.elim (.atom .null) fun t => .atom (.string t)),
    (.atom (.string "code".toList), .atom (.string s.code))]

/-- A filled snippet is valid as it is. -/
theorem validated?_toValue {s : Snippet} (h : s.IsFilled) : validated? s.toValue = some s := by
  have hfilled {t : Text} (ht : t.isVacant = false) :
      filled? (some (.atom (.string t))) = some t := by
    simp [filled?, text?, ht]
  have hoptional : optional? (some (s.description?.elim (.atom .null) fun t => .atom (.string t))) =
      some s.description? := by
    cases s.description? <;> rfl
  show (do
    let name ← filled? (some (.atom (.string s.name)))
    let icon ← filled? (some (.atom (.string s.icon)))
    let description? ← optional?
      (some (s.description?.elim (.atom .null) fun t => .atom (.string t)))
    let code ← filled? (some (.atom (.string s.code)))
    return { name, icon, description?, code }) = some s
  rw [hfilled h.name, hfilled h.icon, hfilled h.code, hoptional]
  rfl

/-- Once its code has no line break at the end, a filled snippet is read again as it is. -/
theorem ofValue?_toValue {s : Snippet} (h : s.IsFilled) (hend : s.code.getLast? ≠ some '\n') :
    ofValue? s.toValue = some s := by
  have hcode : s.code.dropEndWhile (· == '\n') = s.code := by
    refine Text.dropEndWhile_eq_self fun c hlast => beq_eq_false_iff_ne.mpr ?_
    rintro rfl
    exact hend hlast
  rw [ofValue?_eq, validated?_toValue h, Option.map_some, hcode]

theorem forall₂_ofValue? {items : List Value} (h : ∀ v ∈ items, v.IsPlain) :
    List.Forall₂ (fun entry s => ∃ pairs, entry = .mapping pairs ∧ s.IsGivenBy pairs)
      (items.filter isTemplate) (items.filterMap ofValue?) := by
  induction items with
  | nil => exact .nil
  | cons v rest ih =>
    have hrest := ih fun w hw => h w (List.mem_cons_of_mem v hw)
    rcases ofValue?_cases (h v List.mem_cons_self) with
      ⟨hneeds, hread⟩ | ⟨hneeds, s, hread, hgiven, -⟩
    · rwa [List.filter_cons_of_neg (by simp [hneeds]), List.filterMap_cons_none hread]
    · rw [List.filter_cons_of_pos hneeds, List.filterMap_cons_some hread]
      exact .cons hgiven hrest

/-- The entries of a plain value are plain. -/
theorem isPlain_of_mem_entriesOf {v entry : Value} (h : v.IsPlain) (hentry : entry ∈ entriesOf v) :
    entry.IsPlain := by
  cases h with
  | list hitems => exact hitems entry hentry
  | @mapping pairs hpairs =>
    unfold entriesOf at hentry
    dsimp only at hentry
    split at hentry
    · next items htemplates =>
      cases Value.IsPlain.get? (.mapping hpairs) _ _ htemplates with
      | list hitems => exact hitems entry hentry
    · cases hentry
  | null | bool | integer | float | notNumber | string | deeper => cases hentry

/-- **Which snippets a file has.** Where a loader finds a value for a text that is made of null, truth
values, numbers, texts, lists and mappings, the snippets of the text are found in the value. They are
those of its entries, in order, that are mappings with a name, an icon and a code that are texts with
more than blanks in them, and with a description that is absent, null or a text. Each has the name,
the icon and the description as they are given, and the code without the line breaks at its end. So
none of these texts is blank, and the snippet is valid as it is and read again. -/
theorem custom_snippets_filtered {v : Value} (h : v.IsPlain) :
    (∀ {ε : Type} (load : Loader ε) (text : Text), load text = .ok v →
      readList load text = .ok (listOfValue v)) ∧
    (∃ entries, Offers v entries ∧
      List.Forall₂ (fun entry s => ∃ pairs, entry = .mapping pairs ∧ s.IsGivenBy pairs)
        (entries.filter isTemplate) (listOfValue v)) ∧
    ∀ s ∈ listOfValue v, s.IsFilled ∧ validated? s.toValue = some s ∧
      ofValue? s.toValue = some s := by
  have hentries : ∀ entry ∈ entriesOf v, entry.IsPlain :=
    fun _ hentry => isPlain_of_mem_entriesOf h hentry
  refine ⟨fun load text hload => readList_eq_ok_iff.mpr (.inl ⟨v, hload, rfl⟩),
    ⟨entriesOf v, offers_entriesOf v, forall₂_ofValue? hentries⟩, fun s hs => ?_⟩
  obtain ⟨entry, hentry, hs⟩ := List.mem_filterMap.mp hs
  rcases ofValue?_cases (hentries entry hentry) with
    ⟨-, hnone⟩ | ⟨-, s', hsome, ⟨pairs, -, hgiven⟩, hfilled⟩
  · rw [hnone] at hs
    cases hs
  · obtain rfl : s' = s := Option.some.inj (hsome.symm.trans hs)
    exact ⟨hfilled, validated?_toValue hfilled, ofValue?_toValue hfilled hgiven.code_end⟩

/-- Below the key of templates: an entry, a text, an entry whose code is blank, and one that has a
list for its name. The loader knows one text, which has this value. -/
theorem custom_snippets_filtered_below_key :
    let text (s : String) : Value := .atom (.string s.toList)
    let entry (name code : Value) : Value := .mapping [(.atom (.string "name".toList), name),
      (.atom (.string "icon".toList), text "Box"), (.atom (.string "code".toList), code)]
    let entries := [entry (text "ok") (text "a: 1\n\n"), text "name",
      entry (text "blank") (text "  "), entry (.list [text "list"]) (text "a: 1")]
    let v : Value := .mapping [(.atom (.string "templates".toList), .list entries)]
    let written := ("templates: [\x7bname: ok, icon: Box, code: \"a: 1\\n\\n\"\x7d, name, " ++
      "\x7bname: blank, icon: Box, code: '  '\x7d, \x7bname: [list], icon: Box, code: 'a: 1'\x7d]")
    let load : Loader Unit := fun t => if t = written.toList then .ok v else .error .malformed
    let ok : Snippet := ⟨"ok".toList, "Box".toList, none, "a: 1".toList⟩
    v.IsPlain ∧ load written.toList = .ok v ∧ readList load written.toList = .ok [ok] ∧
      ok.IsFilled ∧ validated? ok.toValue = some ok ∧ ofValue? ok.toValue = some ok := by
  intro text entry entries v written load ok
  have htext (s : String) : (text s).IsPlain := .string _
  have hentry {name code : Value} (hname : name.IsPlain) (hcode : code.IsPlain) :
      (entry name code).IsPlain := by
    refine .mapping fun p hp => ?_
    simp only [List.mem_cons, List.not_mem_nil, or_false] at hp
    rcases hp with rfl | rfl | rfl
    exacts [hname, htext _, hcode]
  have hlist : (Value.list [text "list"]).IsPlain := .list (by simp [htext])
  have hentries : ∀ e ∈ entries, e.IsPlain := by
    simp only [entries, List.forall_mem_cons, List.not_mem_nil, false_imp_iff, forall_true_iff,
      and_true]
    exact ⟨hentry (htext _) (htext _), htext _, hentry (htext _) (htext _), hentry hlist (htext _)⟩
  have hplain : v.IsPlain := .mapping fun p hp => by
    obtain rfl := List.mem_singleton.mp hp
    exact .list hentries
  have hsnippets : listOfValue v = [ok] := by decide
  have hload : load written.toList = .ok v := if_pos rfl
  obtain ⟨hread, -, hvalid⟩ := custom_snippets_filtered hplain
  exact ⟨hplain, hload, hsnippets ▸ hread load written.toList hload,
    hvalid ok (by simp [hsnippets])⟩

end Snippet

end ComposeLint
