import ComposeLint.Proofs.Yaml.Merges
import ComposeLint.Yaml.Value.Builder

/-!
# What is built for a document

Nodes are built one after the other, some at once and some filled later, and what was built for a
node may be looked at before all of it is there. Throughout, whatever is a part of something was
built itself, and no mapping has a key twice: a new key comes last and an old one stays in its
place. Each function of the builder keeps this, so it holds of the whole document.
-/

namespace ComposeLint.Yaml

namespace Key

variable {α : Type} {pairs : List (Key × α)} {key : Key} {a : α}

/-- No key is the same as one after it. -/
def AreDistinct (pairs : List (Key × α)) : Prop :=
  (pairs.map Prod.fst).Pairwise fun k l => k.same l = false

theorem areDistinct_nil : AreDistinct ([] : List (Key × α)) := .nil

/-- What a key has changes, or the key and what it has come last. -/
theorem put_cases (pairs : List (Key × α)) (key : Key) (a : α) :
    (put pairs key a).map Prod.fst = pairs.map Prod.fst ∨
      put pairs key a = pairs ++ [(key, a)] ∧ isIn pairs key = false := by
  unfold put
  split
  · left
    rw [List.map_map]
    refine List.map_congr_left fun p _ => ?_
    dsimp only [Function.comp]
    split <;> rfl
  · next h => exact .inr ⟨rfl, Bool.eq_false_iff.mpr h⟩

theorem AreDistinct.put (h : AreDistinct pairs) : AreDistinct (put pairs key a) := by
  rcases put_cases pairs key a with hkeys | ⟨hput, hnew⟩
  · rwa [AreDistinct, hkeys]
  · rw [AreDistinct, hput, List.map_append, List.pairwise_append]
    refine ⟨h, List.pairwise_singleton _ _, fun k hk l hl => ?_⟩
    obtain rfl := List.mem_singleton.mp hl
    obtain ⟨p, hp, rfl⟩ := List.mem_map.mp hk
    have hp' := List.any_eq_false.mp hnew p hp
    exact Bool.eq_false_iff.mpr hp'

theorem AreDistinct.putAll {more : List (Key × α)} (h : AreDistinct pairs) :
    AreDistinct (putAll pairs more) := by
  induction more generalizing pairs with
  | nil => exact h
  | cons p more ih => exact ih h.put

theorem mem_put {p : Key × α} (h : p ∈ put pairs key a) : p.2 = a ∨ p ∈ pairs := by
  unfold put at h
  split at h
  · obtain ⟨q, hq, rfl⟩ := List.mem_map.mp h
    dsimp only
    split
    · exact .inl rfl
    · exact .inr hq
  · rcases List.mem_append.mp h with h | h
    · exact .inr h
    · exact .inl (List.mem_singleton.mp h ▸ rfl)

theorem mem_putAll {more : List (Key × α)} {p : Key × α} (h : p ∈ putAll pairs more) :
    p ∈ pairs ∨ ∃ q ∈ more, p.2 = q.2 := by
  induction more generalizing pairs with
  | nil => exact .inl h
  | cons q more ih =>
    rcases ih h with h | ⟨q', hq', heq⟩
    · rcases mem_put h with heq | h
      · exact .inr ⟨q, List.mem_cons_self, heq⟩
      · exact .inl h
    · exact .inr ⟨q', List.mem_cons_of_mem _ hq', heq⟩

end Key

namespace Built

/-- The parts that something is built of. -/
def parts : Built → List Part
  | .atom _ | .set => []
  | .list items => items
  | .pairs items => items.flatMap fun (l, r) => [l, r]
  | .mapping members | .orderedMapping members => members.map Prod.snd

def HasDistinctKeys : Built → Prop
  | .mapping members | .orderedMapping members => Key.AreDistinct members
  | _ => True

end Built

/-- A list or mapping is made empty. -/
theorem sound_of_start? {kind : Kind} {empty : Built} (h : Built.start? kind = some empty) :
    empty.HasDistinctKeys ∧ empty.parts = [] := by
  cases kind <;> cases h <;> exact ⟨by first | trivial | exact Key.areDistinct_nil, rfl⟩

namespace Builder

open Growth

/-- Whether a part is null or was built. -/
def IsThere (b : Builder) (part : Part) : Prop := ∀ id ∈ part, (b.built? id).isSome = true

/-- Each node has a place, each part of what was built is there, and no mapping has a key twice. -/
structure IsSound (b : Builder) : Prop where
  nodes : Node.AreClosed b.nodes
  size : b.built.size = b.nodes.size
  waiting : ∀ id ∈ b.waiting, id < b.nodes.size
  keys : ∀ {id v}, b.built? id = some v → v.HasDistinctKeys
  parts : ∀ {id v}, b.built? id = some v → ∀ part ∈ v.parts, b.IsThere part

/-- What is built stays, though it may be filled. -/
def growth : Growth Builder where
  sound := IsSound
  le b b' := b'.nodes.size = b.nodes.size ∧
    ∀ id, (b.built? id).isSome = true → (b'.built? id).isSome = true
  refl _ := ⟨rfl, fun _ => id⟩
  trans h h' := ⟨h'.1.trans h.1, fun id hid => h'.2 id (h.2 id hid)⟩

variable {b b' : Builder} {id : NodeId}

theorem IsThere.mono {part : Part} (h : b.IsThere part) (hle : growth.le b b') :
    b'.IsThere part := fun id hid => hle.2 id (h id hid)

theorem built?_setIfInBounds {v : Built} (hid : id < b.built.size) (j : NodeId) :
    built? { b with built := b.built.setIfInBounds id (some v) } j =
      if id = j then some v else b.built? j := by
  unfold built?
  rw [Array.getElem?_setIfInBounds]
  split
  · simp
  · rfl

/-- Something is built for a node that has a place. -/
theorem keeps_store {v : Built} (hid : id < b.nodes.size) (hkeys : v.HasDistinctKeys)
    (hparts : ∀ part ∈ v.parts, b.IsThere part) :
    growth.Keeps b (store id v) fun _ b => (b.built? id).isSome = true := by
  unfold store
  refine keeps_modify fun s hle hs => ?_
  have hbuilt := built?_setIfInBounds (v := v) (hs.size ▸ hle.1 ▸ hid : id < s.built.size)
  have hgrown : growth.le s { s with built := s.built.setIfInBounds id (some v) } := by
    refine ⟨rfl, fun j hj => ?_⟩
    rw [hbuilt]
    split
    · rfl
    · exact hj
  refine ⟨⟨hs.nodes, Array.size_setIfInBounds.trans hs.size, hs.waiting, fun {j w} hj => ?_,
    fun {j w} hj part hpart => ?_⟩, hgrown, ?_⟩
  · rw [hbuilt] at hj
    split at hj
    · exact Option.some.inj hj ▸ hkeys
    · exact hs.keys hj
  · rw [hbuilt] at hj
    split at hj
    · obtain rfl := Option.some.inj hj
      exact ((hparts part hpart).mono hle).mono hgrown
    · exact (hs.parts hj part hpart).mono hgrown
  · rw [hbuilt, if_pos rfl]
    rfl

/-- A run that neither builds anything nor changes a node. -/
abbrev Passes {α : Type} (b : Builder) (m : Building α) : Prop := growth.Keeps b m fun _ _ => True

theorem passes_lift {α : Type} (x : Except Fault α) : Passes b (liftM x) :=
  keeps_lift fun _ _ _ _ _ => trivial

theorem passes_modify {u : Builder → Builder}
    (h : ∀ s, growth.le b s → s.IsSound → (u s).IsSound ∧ growth.le s (u s)) :
    Passes b (modify u) :=
  keeps_modify fun s hle hs => ⟨(h s hle hs).1, (h s hle hs).2, trivial⟩

/-- Which nodes are being built, and how, does no harm. -/
theorem passes_enter (active : List NodeId) (isWhole : Bool) :
    Passes b (modify fun b => { b with active, isWhole }) :=
  passes_modify fun _ _ hs => ⟨⟨hs.nodes, hs.size, hs.waiting, hs.keys, hs.parts⟩, rfl, fun _ => id⟩

theorem passes_wait {ids : List NodeId} (hids : ∀ id ∈ ids, id < b.nodes.size) :
    Passes b (modify fun b => { b with waiting := b.waiting ++ ids }) := by
  refine passes_modify fun s hle hs =>
    ⟨⟨hs.nodes, hs.size, fun id hid => ?_, hs.keys, hs.parts⟩, rfl, fun _ => id⟩
  rcases List.mem_append.mp hid with hid | hid
  · exact hs.waiting id hid
  · exact hle.1.symm ▸ hids id hid

theorem passes_setNodes {nodes : Array Node} (hclosed : Node.AreClosed nodes)
    (hsize : nodes.size = b.nodes.size) : Passes b (modify fun b => { b with nodes }) := by
  refine passes_modify fun s hle hs => ?_
  have hsame : nodes.size = s.nodes.size := hsize.trans hle.1.symm
  exact ⟨⟨hclosed, hs.size.trans hsame.symm, fun id hid => hsame ▸ hs.waiting id hid, hs.keys,
    hs.parts⟩, hsame, fun _ => id⟩

theorem passes_setWaiting {ids : List NodeId} (hids : ∀ id ∈ ids, id < b.nodes.size) :
    Passes b (modify fun b => { b with waiting := ids }) :=
  passes_modify fun _ hle hs =>
    ⟨⟨hs.nodes, hs.size, fun id hid => hle.1.symm ▸ hids id hid, hs.keys, hs.parts⟩, rfl,
      fun _ => id⟩

/-- What is built for a node is there afterwards. -/
abbrev Builds (b : Builder) (m : Building Part) : Prop :=
  growth.Keeps b m fun part b => b.IsThere part

abbrev Makes (b : Builder) (id : NodeId) (m : Building Unit) : Prop :=
  growth.Keeps b m fun _ b => (b.built? id).isSome = true

/-- Pairs with different keys, of which the values are there. -/
structure AreSound (b : Builder) (pairs : List (Key × Part)) : Prop where
  keys : Key.AreDistinct pairs
  parts : ∀ p ∈ pairs, b.IsThere p.2

abbrev Fills (b : Builder) (m : Building (List (Key × Part))) : Prop :=
  growth.Keeps b m fun pairs b => b.AreSound pairs

theorem isThere_none : b.IsThere none := fun _ => nofun

theorem AreSound.nil : b.AreSound [] := ⟨Key.areDistinct_nil, fun _ => nofun⟩

theorem AreSound.mono {pairs : List (Key × Part)} (h : b.AreSound pairs) (hle : growth.le b b') :
    b'.AreSound pairs := ⟨h.keys, fun p hp => (h.parts p hp).mono hle⟩

theorem AreSound.there {pairs : List (Key × Part)} (h : b.AreSound pairs) :
    ∀ part ∈ pairs.map Prod.snd, b.IsThere part := by
  intro part hpart
  obtain ⟨p, hp, rfl⟩ := List.mem_map.mp hpart
  exact h.parts p hp

theorem AreSound.put {pairs : List (Key × Part)} {key : Key} {part : Part} (h : b.AreSound pairs)
    (hpart : b.IsThere part) : b.AreSound (Key.put pairs key part) := by
  refine ⟨h.keys.put, fun p hp => ?_⟩
  rcases Key.mem_put hp with heq | hp
  · exact heq ▸ hpart
  · exact h.parts p hp

theorem AreSound.putAll {pairs more : List (Key × Part)} (h : b.AreSound pairs)
    (hmore : b.AreSound more) : b.AreSound (Key.putAll pairs more) := by
  refine ⟨h.keys.putAll, fun p hp => ?_⟩
  rcases Key.mem_putAll hp with hp | ⟨q, hq, heq⟩
  · exact h.parts p hp
  · exact heq ▸ hmore.parts q hq

theorem fills_putKey {mayRepeat : Bool} {pairs : List (Key × Part)} {keyPart value : Part}
    (hpairs : b.AreSound pairs) (hvalue : b.IsThere value) :
    Fills b (putKey mayRepeat pairs keyPart value) := by
  unfold putKey
  refine keeps_get_bind fun s hs _ => (passes_lift _).bind fun key t ht _ _ => ?_
  refine .ite (fun _ => keeps_throw_bind) fun _ => keeps_pure fun u hu _ => ?_
  have hle := growth.trans hs (growth.trans ht hu)
  exact (hpairs.mono hle).put (hvalue.mono hle)

theorem lt_of_sequence {ids : List NodeId} (hb : b.IsSound) (h : b.sequence id = .ok ids) :
    ∀ id ∈ ids, id < b.nodes.size := by
  have hcontent := hb.nodes.contentOf id
  unfold sequence at h
  split at h
  · next items heq =>
    rw [heq] at hcontent
    exact Except.ok.inj h ▸ hcontent
  · cases h

theorem keeps_sequence (hb : b.IsSound) :
    growth.Keeps b (liftM (b.sequence id) : Building _)
      fun ids _ => ∀ id ∈ ids, id < b.nodes.size :=
  keeps_lift fun _ h _ _ _ => lt_of_sequence hb h

theorem lt_of_onlyPair {p : NodeId × NodeId} (hb : b.IsSound) (h : b.onlyPair id = .ok p) :
    p.1 < b.nodes.size ∧ p.2 < b.nodes.size := by
  have hcontent := hb.nodes.contentOf id
  unfold onlyPair at h
  split at h
  · next merged pair heq =>
    rw [heq] at hcontent
    exact Except.ok.inj h ▸ hcontent pair (List.mem_append_right _ List.mem_cons_self)
  · cases h

theorem keeps_onlyPair (hb : b.IsSound) (hle : growth.le b b') :
    growth.Keeps b' (liftM (b.onlyPair id) : Building _)
      fun p b => p.1 < b.nodes.size ∧ p.2 < b.nodes.size :=
  keeps_lift fun _ h s hs _ => by
    rw [hs.1, hle.1]
    exact lt_of_onlyPair hb h

structure BuildAll (fuel : Nat) : Prop where
  build {b : Builder} {id : NodeId} (asWhole : Bool) (hid : id < b.nodes.size) :
    Builds b (build fuel asWhole id)
  make {b : Builder} {id : NodeId} (hid : id < b.nodes.size) : Makes b id (make fuel id)
  fill {b : Builder} {id : NodeId} (hid : id < b.nodes.size) : Makes b id (fill fuel id)
  fillMapping (b : Builder) (id : NodeId) : Fills b (fillMapping fuel id)
  fillPair {b : Builder} (mayRepeat : Bool) {pairs : List (Key × Part)} {p : NodeId × NodeId}
    (hpairs : b.AreSound pairs) (hp : p.1 < b.nodes.size ∧ p.2 < b.nodes.size) :
    Fills b (fillPair fuel mayRepeat pairs p)

namespace BuildAll

theorem zero : BuildAll 0 := by
  constructor <;> intros
  · rw [Builder.build]; exact keeps_throw
  · rw [Builder.make]; exact keeps_throw
  · rw [Builder.fill]; exact keeps_throw
  · rw [Builder.fillMapping]; exact keeps_throw
  · rw [Builder.fillPair]; exact keeps_throw

variable {fuel : Nat} (h : BuildAll fuel)
include h

theorem build_succ (asWhole : Bool) (hid : id < b.nodes.size) :
    Builds b (Builder.build (fuel + 1) asWhole id) := by
  rw [Builder.build]
  refine keeps_get_bind fun s hs _ => .ite (fun hbuilt => ?_) fun _ => ?_
  · exact keeps_pure fun t ht _ j hj => Option.some.inj hj ▸ ht.2 id hbuilt
  refine keeps_get_bind fun t ht _ => ?_
  refine .ite (fun _ => keeps_pure fun _ _ _ => isThere_none) fun _ =>
    keeps_get_bind fun u hu _ => ?_
  refine (passes_enter _ _).bind fun _ v hv _ _ => ?_
  have hid' : id < v.nodes.size := hv.1 ▸ hu.1 ▸ ht.1 ▸ hs.1 ▸ hid
  refine (h.make hid').bind fun _ w hw _ hmade => ?_
  refine (passes_enter _ _).bind fun _ x hx _ _ => ?_
  exact keeps_pure fun y hy _ j hj => Option.some.inj hj ▸ hy.2 id (hx.2 id hmade)

theorem make_succ (hid : id < b.nodes.size) : Makes b id (Builder.make (fuel + 1) id) := by
  rw [Builder.make]
  refine keeps_get_bind fun s hs _ => ?_
  have hid' : id < s.nodes.size := hs.1 ▸ hid
  split
  · refine (passes_lift _).bind fun a t ht _ _ => ?_
    exact keeps_store (ht.1 ▸ hid') trivial (List.forall_mem_nil _)
  · next empty hempty =>
    refine .ite (fun _ => h.fill hid') fun _ => ?_
    have hstart := sound_of_start? hempty
    refine (keeps_store hid' hstart.1 fun part hpart => ?_).bind fun _ t ht _ hmade => ?_
    · rw [hstart.2] at hpart; cases hpart
    refine (passes_wait fun j hj => ?_).mono fun _ u hu _ _ => hu.2 id hmade
    exact List.mem_singleton.mp hj ▸ ht.1 ▸ hid'

theorem fill_succ (hid : id < b.nodes.size) : Makes b id (Builder.fill (fuel + 1) id) := by
  rw [Builder.fill]
  refine keeps_get_bind fun s hs hsound => ?_
  have hid' : id < s.nodes.size := hs.1 ▸ hid
  split
  · refine (keeps_sequence hsound).bind fun ids t ht _ hids => ?_
    refine (keeps_mapM (fun _ _ _ hle hpart => hpart.mono hle) ids fun j hj u hu =>
      h.build false (hu.1 ▸ ht.1 ▸ hids j hj)).bind fun parts u hu _ hparts => ?_
    exact keeps_store (hu.1 ▸ ht.1 ▸ hid') trivial hparts
  · refine (h.fillMapping s id).bind fun pairs t ht _ hpairs => ?_
    exact keeps_store (ht.1 ▸ hid') hpairs.keys hpairs.there
  · refine (h.fillMapping s id).discard.bind fun _ t ht _ _ => ?_
    exact keeps_store (ht.1 ▸ hid') trivial (List.forall_mem_nil _)
  · refine (keeps_sequence hsound).bind fun ids t ht _ _ => ?_
    refine (keeps_foldlM (Q := fun pairs b => b.AreSound pairs) (fun _ _ _ hle hp => hp.mono hle)
      ids (fun j _ pairs u hu _ hpairs => ?_) [] fun _ _ _ => .nil).bind
        fun pairs u hu _ hpairs => ?_
    · refine (keeps_onlyPair hsound (growth.trans ht hu)).bind fun p v hv _ hp => ?_
      refine (h.build false hp.1).bind fun keyPart w hw _ _ => keeps_get_bind fun x hx _ => ?_
      refine (passes_lift _).bind fun key y hy _ _ => .ite (fun _ => keeps_throw_bind) fun _ => ?_
      have hle := growth.trans hw (growth.trans hx hy)
      refine (h.build false (hle.1 ▸ hp.2)).bind fun value z hz _ hvalue =>
        keeps_pure fun a ha _ => ?_
      have hgrown := growth.trans hv (growth.trans hle (growth.trans hz ha))
      exact (hpairs.mono hgrown).put (hvalue.mono ha)
    · exact keeps_store (hu.1 ▸ ht.1 ▸ hid') hpairs.keys hpairs.there
  · refine (keeps_sequence hsound).bind fun ids t ht _ _ => ?_
    refine (keeps_mapM (Q := fun p b => b.IsThere p.1 ∧ b.IsThere p.2)
      (fun _ _ _ hle hp => ⟨hp.1.mono hle, hp.2.mono hle⟩) ids fun j _ u hu => ?_).bind
        fun items u hu _ hitems => ?_
    · refine (keeps_onlyPair hsound (growth.trans ht hu)).bind fun p v _ _ hp => ?_
      refine (h.build false hp.1).bind fun l w hw _ hl => ?_
      refine (h.build false (hw.1 ▸ hp.2)).bind fun r x hx _ hr => keeps_pure fun y hy _ => ?_
      exact ⟨hl.mono (growth.trans hx hy), hr.mono hy⟩
    · refine keeps_store (hu.1 ▸ ht.1 ▸ hid') trivial fun part hpart => ?_
      obtain ⟨p, hp, hpart⟩ := List.mem_flatMap.mp hpart
      rcases List.mem_cons.mp hpart with rfl | hpart
      · exact (hitems p hp).1
      · exact List.mem_singleton.mp hpart ▸ (hitems p hp).2
  · exact keeps_throw

/-- Pairs are filled in one after the other. -/
theorem fills_foldlM (mayRepeat : Bool) {pairs : NodePairs}
    (hpairs : Node.ArePairsWithin b.nodes.size pairs) :
    Fills b (pairs.foldlM (Builder.fillPair fuel mayRepeat) []) :=
  keeps_foldlM (fun _ _ _ hle hp => hp.mono hle) pairs
    (fun p hp _ _ hs _ hbefore => h.fillPair mayRepeat hbefore (hs.1 ▸ hpairs p hp)) []
    fun _ _ _ => .nil

theorem fillMapping_succ (id : NodeId) : Fills b (Builder.fillMapping (fuel + 1) id) := by
  rw [Builder.fillMapping]
  refine keeps_get_bind fun s _ hs => ?_
  refine (keeps_lift (Q := fun nodes _ => Node.AreClosed nodes ∧ nodes.size = s.nodes.size)
    fun _ hok _ _ _ => Node.areClosed_of_resolveMerges hs.nodes hok).bind
      fun nodes t ht _ hnodes => ?_
  obtain ⟨hclosed, hsize⟩ := hnodes
  refine (passes_setNodes hclosed (hsize.trans ht.1.symm)).bind fun _ u hu _ _ => ?_
  have hcontent := hclosed.contentOf id
  split
  · next merged pairs heq =>
    rw [heq, hsize, ← ht.1, ← hu.1] at hcontent
    refine (h.fills_foldlM _ fun p hp => hcontent p (List.mem_append_left _ hp)).bind
      fun taken v hv _ htaken => ?_
    refine (h.fills_foldlM _ fun p hp => hv.1 ▸ hcontent p (List.mem_append_right _ hp)).bind
      fun own w hw _ hown => keeps_pure fun x hx _ => ?_
    exact (htaken.mono (growth.trans hw hx)).putAll (hown.mono hx)
  · exact keeps_throw

theorem fillPair_succ (mayRepeat : Bool) {pairs : List (Key × Part)} {p : NodeId × NodeId}
    (hpairs : b.AreSound pairs) (hp : p.1 < b.nodes.size ∧ p.2 < b.nodes.size) :
    Fills b (Builder.fillPair (fuel + 1) mayRepeat pairs p) := by
  rw [Builder.fillPair]
  refine (h.build true hp.1).bind fun key s hs _ _ => keeps_get_bind fun t ht _ => ?_
  refine .ite (fun _ => keeps_throw_bind) fun _ => ?_
  have hle := growth.trans hs ht
  refine (h.build false (hle.1 ▸ hp.2)).bind fun value u hu _ hvalue => ?_
  exact fills_putKey (hpairs.mono (growth.trans hle hu)) hvalue

theorem succ : BuildAll (fuel + 1) where
  build := h.build_succ
  make := h.make_succ
  fill := h.fill_succ
  fillMapping _ := h.fillMapping_succ
  fillPair := h.fillPair_succ

end BuildAll

theorem buildAll : ∀ fuel, BuildAll fuel
  | 0 => .zero
  | fuel + 1 => (buildAll fuel).succ

theorem passes_fillWaiting (depth fuel : Nat) : Passes b (fillWaiting depth fuel) := by
  induction fuel generalizing b with
  | zero => exact keeps_pure fun _ _ _ => trivial
  | succ fuel ih =>
    rw [fillWaiting]
    refine keeps_get_bind fun s _ hs => ?_
    split
    · exact keeps_pure fun _ _ _ => trivial
    · next id rest hwaiting =>
      have hids := List.forall_mem_cons.mp (hwaiting ▸ hs.waiting)
      refine (passes_setWaiting hids.2).bind fun _ t ht _ _ => ?_
      exact ((buildAll depth).fill (ht.1 ▸ hids.1)).bind fun _ _ _ _ _ => ih

theorem isSound_start {g : Graph} (hg : g.IsClosed) : (start g).IsSound := by
  have hnone (id : NodeId) : (start g).built? id = none := by
    unfold built? start
    rw [Array.getElem?_replicate]
    split <;> rfl
  refine ⟨hg.nodes, Array.size_replicate, fun _ => nofun, fun {id v} h => ?_, fun {id v} h => ?_⟩
  · rw [hnone] at h; cases h
  · rw [hnone] at h; cases h

/-- **What is built for a document is sound**, and its root is there. -/
theorem isSound_of_run {g : Graph} (hg : g.IsClosed) {root : Part}
    (h : run g = .ok (root, b)) : b.IsSound ∧ b.IsThere root := by
  have hkeeps : Builds (start g) (do
      let root ← build (depth g) false g.root
      fillWaiting (depth g) (g.nodes.size + 1)
      return root) :=
    ((buildAll _).build false hg.root).bind fun root s _ _ hroot =>
      (passes_fillWaiting _ _).bind fun _ t ht _ _ => keeps_pure fun u hu _ =>
        hroot.mono (growth.trans ht hu)
  obtain ⟨hsound, -, hroot⟩ := hkeeps _ (growth.refl _) (isSound_start hg) _ _ h
  exact ⟨hsound, hroot⟩

end Builder

end ComposeLint.Yaml
