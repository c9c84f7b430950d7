import ComposeLint.Proofs.Yaml.Builders
import ComposeLint.Snippet.Store
import ComposeLint.Yaml.Value.Reader
import Mathlib.Data.List.Find

/-!
# What is loaded

A value that is loaded has no key twice, so what it has for a key does not depend on the order of
its pairs. How deep it is loaded does not matter to those who do not look deeper: it is the same
value, cut off at a greater or smaller depth. Snippets are found within three levels.
-/

namespace ComposeLint

namespace Yaml

/-! ### Keys that are texts -/

theorem Atom.same_string_iff {a : Atom} {t : Text} : a.same (.string t) = true ↔ a = .string t := by
  cases a <;> simp [Atom.same, Atom.integer?]

theorem Key.same_string_iff {k : Key} {t : Text} :
    k.same (.atom (.string t)) = true ↔ k = .atom (.string t) := by
  cases k with
  | atom a => simp [Key.same, Atom.same_string_iff]
  | itself id => simp [Key.same]
  | tuple keys => simp [Key.same]

namespace Value

/-- No mapping in a value has a key twice. -/
inductive HasDistinctKeys : Value → Prop
  | atom (a : Atom) : HasDistinctKeys (.atom a)
  | list {items : List Value} (h : ∀ v ∈ items, HasDistinctKeys v) : HasDistinctKeys (.list items)
  | mapping {pairs : List (Key × Value)} (hkeys : Key.AreDistinct pairs)
    (h : ∀ p ∈ pairs, HasDistinctKeys p.2) : HasDistinctKeys (.mapping pairs)
  | other : HasDistinctKeys .other

/-- Where keys are distinct, a text is one of them at most once. -/
theorem eq_of_isKey {pairs : List (Key × Value)} (h : Key.AreDistinct pairs) {key : Text}
    {p q : Key × Value} (hp : p ∈ pairs) (hq : q ∈ pairs)
    (hpkey : p.1.same (.atom (.string key)) = true)
    (hqkey : q.1.same (.atom (.string key)) = true) : p = q := by
  have hsame : p.1.same q.1 = true ∧ q.1.same p.1 = true := by
    rw [Key.same_string_iff.mp hpkey, Key.same_string_iff.mp hqkey]
    exact ⟨Key.same_string_iff.mpr rfl, Key.same_string_iff.mpr rfl⟩
  rw [Key.AreDistinct, List.pairwise_map] at h
  induction h with
  | nil => cases hp
  | @cons r rest hfirst _ ih =>
    rcases List.mem_cons.mp hp with heq | hp' <;> rcases List.mem_cons.mp hq with heq' | hq'
    · exact heq.trans heq'.symm
    · subst heq
      exact absurd hsame.1 (Bool.eq_false_iff.mp (hfirst q hq'))
    · subst heq'
      exact absurd hsame.2 (Bool.eq_false_iff.mp (hfirst p hp'))
    · exact ih hp' hq'

/-- What is found under a key is what stands with it. -/
theorem get?_eq_some_iff {pairs : List (Key × Value)} (h : Key.AreDistinct pairs) {key : Text}
    {v : Value} : get? key pairs = some v ↔ (.atom (.string key), v) ∈ pairs := by
  unfold get?
  rw [Option.map_eq_some_iff]
  constructor
  · rintro ⟨⟨k, v⟩, hp, rfl⟩
    have hkey : k.same (.atom (.string key)) = true := by simpa using List.find?_some hp
    exact Key.same_string_iff.mp hkey ▸ List.mem_of_find?_eq_some hp
  · intro hv
    generalize hfound : pairs.find? _ = found
    cases found with
    | none => exact absurd (Key.same_string_iff.mpr rfl) (List.find?_eq_none.mp hfound _ hv)
    | some p =>
      have hkey : p.1.same (.atom (.string key)) = true := by simpa using List.find?_some hfound
      refine ⟨p, rfl, ?_⟩
      rw [eq_of_isKey h (List.mem_of_find?_eq_some hfound) hv hkey (Key.same_string_iff.mpr rfl)]

/-- The order of the pairs does not count. -/
theorem get?_of_perm {pairs pairs' : List (Key × Value)} (h : Key.AreDistinct pairs)
    (hperm : pairs.Perm pairs') (key : Text) : get? key pairs = get? key pairs' := by
  unfold get?
  rw [List.find?_eq_find?_of_perm hperm]
  exact fun p hp q hq => eq_of_isKey h hp.1 hq.1 hp.2 hq.2

/-! ### Depth -/

/-- A value with no more than so many levels of lists and mappings. -/
def cut : Nat → Value → Value
  | _, .atom a => .atom a
  | depth + 1, .list items => .list (items.map (cut depth))
  | depth + 1, .mapping pairs => .mapping (pairs.map fun (key, v) => (key, cut depth v))
  | _, _ => .other

theorem cut_atom (depth : Nat) (a : Atom) : (atom a).cut depth = .atom a := by cases depth <;> rfl

theorem cut_zero_cut (depth : Nat) (v : Value) : (v.cut depth).cut 0 = v.cut 0 := by
  cases v <;> cases depth <;> rfl

/-- The value of what was built, by the values of its parts. -/
def ofBuilt (f : Part → Value) : Option Built → Value
  | none => .atom .null
  | some (.atom a) => .atom a
  | some (.list items) => .list (items.map f)
  | some (.mapping pairs) | some (.orderedMapping pairs) =>
    .mapping (pairs.map fun (key, part) => (key, f part))
  | some _ => .other

section

variable (b : Builder) (f : Part → Value) (built? : Option Built) (depth : Nat)

theorem cut_succ_ofBuilt :
    (ofBuilt f built?).cut (depth + 1) = ofBuilt (fun part => (f part).cut depth) built? := by
  rcases built? with _ | _ | _ | _ | _ | _ | _ <;> simp [ofBuilt, cut]

theorem ofPart_zero (part : Part) :
    ofPart b 0 part = (ofBuilt f (part.bind b.built?)).cut 0 := by
  unfold ofPart
  dsimp only
  rcases part.bind b.built? with _ | _ | _ | _ | _ | _ | _ <;> rfl

theorem ofPart_succ (part : Part) :
    ofPart b (depth + 1) part = ofBuilt (ofPart b depth) (part.bind b.built?) := by
  conv_lhs => unfold ofPart
  dsimp only
  rcases part.bind b.built? with _ | _ | _ | _ | _ | _ | _ <;> rfl

/-- Less of a value is the same value, cut off. -/
theorem ofPart_eq_cut {m n : Nat} (h : m ≤ n) (part : Part) :
    ofPart b m part = (ofPart b n part).cut m := by
  induction m generalizing n part with
  | zero =>
    cases n with
    | zero => rw [ofPart_zero b (ofPart b 0), cut_zero_cut]
    | succ n => rw [ofPart_zero b (ofPart b n), ofPart_succ]
  | succ m ih =>
    cases n with
    | zero => exact absurd h (Nat.not_succ_le_zero m)
    | succ n =>
      rw [ofPart_succ, ofPart_succ, cut_succ_ofBuilt, funext (ih (Nat.le_of_succ_le_succ h))]

end

/-! ### Keys -/

theorem HasDistinctKeys.cut_zero {v : Value} : (v.cut 0).HasDistinctKeys := by
  cases v with
  | atom a => exact .atom a
  | list items => exact .other
  | mapping pairs => exact .other
  | other => exact .other

theorem hasDistinctKeys_mapping {pairs : List (Key × Part)} {f : Part → Value}
    (hkeys : Key.AreDistinct pairs) (hf : ∀ part, (f part).HasDistinctKeys) :
    HasDistinctKeys (.mapping (pairs.map fun (key, part) => (key, f part))) := by
  refine .mapping ?_ fun p hp => ?_
  · rwa [Key.AreDistinct, List.map_map]
  · obtain ⟨q, -, rfl⟩ := List.mem_map.mp hp
    exact hf q.2

theorem hasDistinctKeys_ofBuilt {built? : Option Built} {f : Part → Value}
    (hbuilt : ∀ v ∈ built?, v.HasDistinctKeys) (hf : ∀ part, (f part).HasDistinctKeys) :
    (ofBuilt f built?).HasDistinctKeys := by
  rcases built? with _ | a | items | items | pairs | pairs | _
  · exact .atom _
  · exact .atom _
  · refine .list fun v hv => ?_
    obtain ⟨part, -, rfl⟩ := List.mem_map.mp hv
    exact hf part
  · exact .other
  · exact hasDistinctKeys_mapping (hbuilt _ rfl) hf
  · exact hasDistinctKeys_mapping (hbuilt _ rfl) hf
  · exact .other

theorem hasDistinctKeys_ofPart {b : Builder} (hb : b.IsSound) (depth : Nat) (part : Part) :
    (ofPart b depth part).HasDistinctKeys := by
  induction depth generalizing part with
  | zero => exact ofPart_zero b (fun _ => .other) part ▸ .cut_zero
  | succ depth ih =>
    rw [ofPart_succ]
    refine hasDistinctKeys_ofBuilt (fun v hv => ?_) ih
    obtain ⟨id, -, hid⟩ := Option.bind_eq_some_iff.mp hv
    exact hb.keys hid

end Value

/-! ### Texts -/

variable {m n depth : Nat} {text : Text} {v : Value}

/-- What is read of a text with a document: what was built for it. -/
theorem read_of_graph {g : Graph} (h : Graph.ofText text = .ok (some g)) (depth : Nat) :
    Value.read depth text =
      (Builder.run g).map fun result => some (Value.ofPart result.2 depth result.1) := by
  unfold Value.read
  rw [h]
  change (Builder.run g >>= fun result => pure (some (Value.ofPart result.2 depth result.1))) = _
  cases Builder.run g <;> rfl

/-- Less of what a text is read as is the same, cut off; the faults are the same. -/
theorem read_eq_map_cut (h : m ≤ n) (text : Text) :
    Value.read m text = (Value.read n text).map (Option.map (Value.cut m)) := by
  cases hgraph : Graph.ofText text with
  | error fault => simp only [Value.read, hgraph]; rfl
  | ok g? =>
    cases g? with
    | none => simp only [Value.read, hgraph]; rfl
    | some g =>
      rw [read_of_graph hgraph, read_of_graph hgraph]
      cases Builder.run g with
      | error fault => rfl
      | ok result => exact congrArg (Except.ok ∘ some) (Value.ofPart_eq_cut result.2 h result.1)

/-- **Depth only cuts values off.** -/
theorem load_eq_map_cut (h : m ≤ n) (text : Text) :
    load m text = (load n text).map (Value.cut m) := by
  unfold load
  rw [read_eq_map_cut h]
  cases Value.read n text with
  | error fault => cases fault <;> rfl
  | ok v? =>
    cases v? with
    | none => exact congrArg Except.ok (Value.cut_atom m .null).symm
    | some v => rfl

theorem hasDistinctKeys_of_read (h : Value.read depth text = .ok (some v)) : v.HasDistinctKeys := by
  cases hgraph : Graph.ofText text with
  | error fault => simp only [Value.read, hgraph] at h; cases h
  | ok g? =>
    cases g? with
    | none => simp only [Value.read, hgraph] at h; cases h
    | some g =>
      rw [read_of_graph hgraph] at h
      cases hrun : Builder.run g with
      | error fault => rw [hrun] at h; cases h
      | ok result =>
        rw [hrun] at h
        cases h
        have hsound := (Builder.isSound_of_run (Graph.isClosed_of_ofText hgraph) hrun).1
        exact Value.hasDistinctKeys_ofPart hsound depth result.1

/-- **No mapping that is loaded has a key twice.** -/
theorem hasDistinctKeys_of_load (h : load depth text = .ok v) : v.HasDistinctKeys := by
  unfold load at h
  cases hread : Value.read depth text with
  | error fault => rw [hread] at h; cases fault <;> cases h
  | ok v? =>
    rw [hread] at h
    cases h
    cases v? with
    | none => exact .atom .null
    | some v => exact hasDistinctKeys_of_read hread

end Yaml

namespace Snippet

open Yaml

/-! ### Snippets -/

theorem get?_map_cut (depth : Nat) (key : Text) (pairs : List (Key × Value)) :
    Value.get? key (pairs.map fun (k, v) => (k, v.cut depth)) =
      (Value.get? key pairs).map (Value.cut depth) := by
  unfold Value.get?
  rw [List.find?_map, Option.map_map, Option.map_map]
  rfl

theorem text?_cut (depth : Nat) (v : Value) : text? (v.cut depth) = text? v := by
  cases v <;> cases depth <;> rfl

theorem filled?_map_cut (depth : Nat) (v? : Option Value) :
    filled? (v?.map (Value.cut depth)) = filled? v? := by
  cases v? with
  | none => rfl
  | some v => simp only [filled?, Option.map_some, Option.bind_some, text?_cut]

theorem optional?_map_cut (depth : Nat) (v? : Option Value) :
    optional? (v?.map (Value.cut depth)) = optional? v? := by
  cases v? with
  | none => rfl
  | some v =>
    cases v with
    | atom a => rw [Option.map_some, Value.cut_atom]
    | _ => cases depth <;> rfl

/-- An entry is read from its own pairs. -/
theorem ofValue?_cut (depth : Nat) (v : Value) : ofValue? (v.cut (depth + 1)) = ofValue? v := by
  cases v with
  | mapping pairs =>
    simp only [Value.cut, ofValue?, get?_map_cut, filled?_map_cut, optional?_map_cut]
  | _ => rfl

theorem filterMap_ofValue?_cut (depth : Nat) (items : List Value) :
    (items.map (Value.cut (depth + 1))).filterMap ofValue? = items.filterMap ofValue? := by
  rw [List.filterMap_map]
  exact congrArg (List.filterMap · items) (funext (ofValue?_cut depth))

theorem listOfValue_cut (v : Value) : listOfValue (v.cut levels) = listOfValue v := by
  unfold listOfValue
  cases v with
  | mapping pairs =>
    simp only [levels, Value.cut, entriesOf, get?_map_cut]
    rcases Value.get? "templates".toList pairs with _ | v
    · rfl
    · cases v with
      | list items => exact filterMap_ofValue?_cut 0 items
      | _ => rfl
  | list items => exact filterMap_ofValue?_cut 1 items
  | _ => rfl

/-- **Snippets stand within the first levels of a text**: no deeper loader finds others. -/
theorem readList_load (h : levels ≤ depth) (text : Text) :
    readList (load depth) text = readList (load levels) text := by
  unfold readList
  rw [load_eq_map_cut h]
  cases load depth text with
  | error fault => rfl
  | ok v => exact congrArg Except.ok (listOfValue_cut v).symm

/-- An entry is the same snippet in whatever order its pairs stand. -/
theorem ofValue?_of_perm {pairs pairs' : List (Key × Value)} (h : Key.AreDistinct pairs)
    (hperm : pairs.Perm pairs') : ofValue? (.mapping pairs) = ofValue? (.mapping pairs') := by
  simp only [ofValue?, Value.get?_of_perm h hperm]

end Snippet

/-- The store finds the same snippets with every loader that is deep enough. -/
theorem Store.customSnippets_load {depth : Nat} (h : Snippet.levels ≤ depth) (s : Store) :
    s.customSnippets (Yaml.load depth) = s.customSnippets (Yaml.load Snippet.levels) := by
  unfold Store.customSnippets
  rw [funext (Snippet.readList_load h)]

end ComposeLint
