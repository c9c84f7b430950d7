import ComposeLint.Proofs.Yaml.Runs
import ComposeLint.Yaml.Node.Reader

/-!
# Documents without loose ends

A document is read into nodes that refer to each other by their places. A node is entered before its
content is known, and an alias stands for a node that was entered before; so at every moment of the
reading each place that is referred to is in use, and places stay in use. What holds of the whole
document is put together from this, one lemma for each function of the reader.
-/

namespace ComposeLint.Yaml

/-- All that a content refers to are places below a bound. -/
def Content.IsWithin (size : Nat) : Content → Prop
  | .scalar _ => True
  | .sequence items => ∀ id ∈ items, id < size
  | .mapping merged pairs => ∀ p ∈ merged ++ pairs, p.1 < size ∧ p.2 < size

theorem Content.IsWithin.mono {c : Content} {m n : Nat} (h : c.IsWithin m) (hle : m ≤ n) :
    c.IsWithin n := by
  cases c with
  | scalar text => trivial
  | sequence items => exact fun id hid => Nat.lt_of_lt_of_le (h id hid) hle
  | mapping merged pairs =>
    exact fun p hp => ⟨Nat.lt_of_lt_of_le (h p hp).1 hle, Nat.lt_of_lt_of_le (h p hp).2 hle⟩

theorem mem_of_lookup {κ α : Type} [BEq κ] [LawfulBEq κ] {pairs : List (κ × α)} {key : κ} {a : α}
    (h : pairs.lookup key = some a) : (key, a) ∈ pairs := by
  obtain ⟨before, after, rfl, -⟩ := List.lookup_eq_some_iff.mp h
  exact List.mem_append_cons_self

theorem require_eq_ok_iff {α : Type} {a? : Option α} {a : α} :
    require a? = .ok a ↔ a? = some a := by
  cases a? <;> simp [require]

namespace Node

/-- Nodes that refer to none but each other. -/
def AreClosed (nodes : Array Node) : Prop := ∀ n ∈ nodes, n.content.IsWithin nodes.size

theorem AreClosed.push {nodes : Array Node} {n : Node} (h : AreClosed nodes)
    (hn : n.content.IsWithin (nodes.size + 1)) : AreClosed (nodes.push n) := by
  intro m hm
  rw [Array.size_push]
  rcases Array.mem_push.mp hm with hm | rfl
  · exact (h m hm).mono (Nat.le_succ _)
  · exact hn

theorem AreClosed.modify {nodes : Array Node} {f : Node → Node} (h : AreClosed nodes) (id : NodeId)
    (hf : ∀ n ∈ nodes, (f n).content.IsWithin nodes.size) : AreClosed (nodes.modify id f) := by
  intro m hm
  rw [Array.size_modify]
  obtain ⟨i, hi, rfl⟩ := Array.mem_iff_getElem.mp hm
  rw [Array.getElem_modify]
  have hi' : i < nodes.size := by simpa using hi
  split
  · exact hf _ (Array.getElem_mem hi')
  · exact h _ (Array.getElem_mem hi')

/-- Whether a reader refers to none but its own nodes. -/
structure Reader.IsClosed (r : Reader) : Prop where
  nodes : AreClosed r.nodes
  anchors : ∀ p ∈ r.anchors, p.2 < r.nodes.size

theorem Reader.IsClosed.lt_of_lookup {r : Reader} (h : r.IsClosed) {name : Text} {id : NodeId}
    (hid : r.anchors.lookup name = some id) : id < r.nodes.size :=
  h.anchors _ (mem_of_lookup hid)

/-- Nodes are added and none is taken away. -/
def Reader.growth : Growth Reader where
  sound := IsClosed
  le r r' := r.nodes.size ≤ r'.nodes.size
  refl _ := Nat.le_refl _
  trans := Nat.le_trans

/-- A run of a reader that finds something to be there. -/
abbrev Finds {α : Type} (r : Reader) (m : Reading α) (Q : α → Nat → Prop) : Prop :=
  Reader.growth.Keeps r m fun a r => Q a r.nodes.size

open Growth

variable {r : Reader} {α : Type}

/-- A run that finds nothing to refer to. -/
abbrev Passes (r : Reader) (m : Reading α) : Prop := Finds r m fun _ _ => True

abbrev FindsNode (r : Reader) (m : Reading NodeId) : Prop := Finds r m fun id size => id < size

abbrev FindsNodes (r : Reader) (m : Reading (List NodeId)) : Prop :=
  Finds r m fun ids size => ∀ id ∈ ids, id < size

abbrev FindsPairs (r : Reader) (m : Reading NodePairs) : Prop :=
  Finds r m fun pairs size => ∀ p ∈ pairs, p.1 < size ∧ p.2 < size

/-! ### Tokens and properties -/

theorem passes_pure (a : α) : Passes r (pure a) := keeps_pure fun _ _ _ => trivial

theorem passes_peek : Passes r peek := by
  unfold peek
  refine keeps_get_bind fun s hle hs => ?_
  dsimp only
  split
  · exact keeps_pure fun _ _ _ => trivial
  · exact keeps_throw
  · exact keeps_pure fun _ _ _ => trivial

theorem passes_drop : Passes r drop := by
  unfold drop
  exact keeps_modify fun s _ hs => ⟨⟨hs.nodes, hs.anchors⟩, Nat.le_refl _, trivial⟩

theorem passes_accept (t : Token) : Passes r (accept t) := by
  unfold accept
  refine passes_peek.bind fun next? s hle hs _ => ?_
  split
  · refine passes_drop.bind fun _ _ _ _ _ => ?_
    exact keeps_pure fun _ _ _ => trivial
  · exact keeps_pure fun _ _ _ => trivial

theorem passes_expect (t : Token) : Passes r (expect t) := by
  unfold expect
  refine (passes_accept t).bind fun ok s hle hs _ => ?_
  exact .ite (fun _ => keeps_throw) fun _ => keeps_pure fun _ _ _ => trivial

theorem passes_isNext (ts : List Token) : Passes r (isNext ts) := by
  unfold isNext
  exact passes_peek.bind fun _ _ _ _ _ => passes_pure _

theorem passes_isLoneValue : Passes r isLoneValue := by
  unfold isLoneValue
  refine keeps_get_bind fun s _ _ => ?_
  exact .ite (fun _ => passes_isNext _) fun _ => passes_pure _

theorem passes_anchor? : Passes r anchor? := by
  unfold anchor?
  refine passes_peek.bind fun next? s _ _ _ => ?_
  split
  · exact passes_drop.bind fun _ _ _ _ _ => passes_pure _
  · exact passes_pure _

theorem passes_tag? : Passes r tag? := by
  unfold tag?
  refine passes_peek.bind fun next? s _ _ _ => ?_
  split
  · exact passes_drop.bind fun _ _ _ _ _ => passes_pure _
  · exact passes_pure _

theorem passes_lift (x : Except Fault α) : Passes r (liftM x) := keeps_lift fun _ _ _ _ _ => trivial

theorem passes_tagOf (handle? : Option Text) (suffix : Text) : Passes r (tagOf handle? suffix) := by
  unfold tagOf
  refine keeps_get_bind fun s _ _ => ?_
  dsimp only
  split
  · exact (passes_lift _).bind fun _ _ _ _ _ => (passes_lift _).bind fun _ _ _ _ _ => passes_pure _
  · exact (passes_pure _).bind fun _ _ _ _ _ => (passes_lift _).bind fun _ _ _ _ _ => passes_pure _

theorem passes_properties : Passes r properties := by
  unfold properties
  refine passes_anchor?.bind fun before? _ _ _ _ => ?_
  refine passes_tag?.bind fun tag? _ _ _ _ => ?_
  extract_lets rest
  have hrest (name? : Option Text) (s : Reader) : Passes s (rest name?) := by
    unfold rest
    split
    · exact (passes_tagOf _ _).bind fun _ _ _ _ _ => passes_pure _
    · exact passes_pure _
  refine .ite (fun _ => ?_) fun _ => ?_
  · exact passes_anchor?.bind fun name? s _ _ _ => hrest name? s
  · exact (passes_pure _).bind fun name? s _ _ _ => hrest name? s

theorem passes_readComma (fuel : Nat) (isFirst : Bool) : Passes r (readComma fuel isFirst) := by
  cases isFirst with
  | true => exact passes_pure _
  | false => exact passes_expect _

/-! ### Nodes -/

/-- A new node may be referred to from its start. -/
theorem finds_enter {name? : Option Text} {n : Node} (hn : n.content.IsWithin 0) :
    FindsNode r (enter name? n) := by
  unfold enter
  refine keeps_get_bind fun s _ _ => ?_
  dsimp only
  refine (keeps_modify (Q := fun _ t => s.nodes.size < t.nodes.size) fun t hle ht => ?_).bind
    fun _ t _ _ hlt => keeps_pure fun u hu _ => Nat.lt_of_lt_of_le hlt hu
  have hlt : s.nodes.size < (t.nodes.push n).size := by
    rw [Array.size_push]
    exact Nat.lt_succ_of_le hle
  refine ⟨⟨ht.nodes.push (hn.mono (Nat.zero_le _)), fun p hp => ?_⟩, ?_, hlt⟩
  · have hold (hp : p ∈ t.anchors) : p.2 < (t.nodes.push n).size := by
      rw [Array.size_push]
      exact Nat.lt_succ_of_lt (ht.anchors p hp)
    cases name? with
    | none => exact hold hp
    | some name =>
      rcases List.mem_cons.mp hp with rfl | hp
      · exact hlt
      · exact hold hp
  · exact Nat.le_of_lt (Nat.lt_of_lt_of_eq (Nat.lt_succ_self _) (Array.size_push n).symm)

theorem finds_enterEmpty : FindsNode r enterEmpty := finds_enter trivial

theorem finds_complete {id : NodeId} {content : Content} (hid : id < r.nodes.size)
    (hcontent : content.IsWithin r.nodes.size) : FindsNode r (complete id content) := by
  unfold complete
  refine (keeps_modify (Q := fun _ _ => True) fun s hle hs => ?_).bind fun _ s hle _ _ =>
    keeps_pure fun t ht _ => Nat.lt_of_lt_of_le hid (Nat.le_trans hle ht)
  have hsize : (s.nodes.modify id fun n => { n with content }).size = s.nodes.size :=
    Array.size_modify
  have hnodes : AreClosed (s.nodes.modify id fun n => { n with content }) :=
    hs.nodes.modify id fun _ _ => hcontent.mono hle
  exact ⟨⟨hnodes, fun p hp => Nat.lt_of_lt_of_eq (hs.anchors p hp) hsize.symm⟩,
    Nat.le_of_eq hsize.symm, trivial⟩

theorem finds_sequenceOf {name? : Option Text} {t : Tag} {items : Reading (List NodeId)}
    (hitems : ∀ s, FindsNodes s items) : FindsNode r (sequenceOf name? t items) := by
  unfold sequenceOf
  refine (finds_enter (by exact List.forall_mem_nil _)).bind fun id s _ _ hid => ?_
  refine (hitems s).bind fun ids u hu _ hids => ?_
  exact finds_complete (Nat.lt_of_lt_of_le hid hu) hids

theorem finds_mappingOf {name? : Option Text} {t : Tag} {pairs : Reading NodePairs}
    (hpairs : ∀ s, FindsPairs s pairs) : FindsNode r (mappingOf name? t pairs) := by
  unfold mappingOf
  refine (finds_enter (by exact List.forall_mem_nil _)).bind fun id s _ _ hid => ?_
  refine (hpairs s).bind fun ps u hu _ hps => ?_
  exact finds_complete (Nat.lt_of_lt_of_le hid hu) hps

theorem finds_scalarOf {name? : Option Text} {t : Tag} {isPlain : Bool} {text : Text} :
    FindsNode r (scalarOf name? t isPlain text) := by
  unfold scalarOf
  exact keeps_get_bind fun s _ _ => finds_enter trivial

/-- What the readers of nodes find with this fuel. -/
structure FindAll (fuel : Nat) : Prop where
  read (r : Reader) (inBlock afterKey : Bool) : FindsNode r (read fuel inBlock afterKey)
  content (r : Reader) (inBlock afterKey : Bool) (name? : Option Text) (t : Tag) :
    FindsNode r (readContent fuel inBlock afterKey name? t)
  entries (r : Reader) : FindsNodes r (readEntries fuel)
  value (r : Reader) : FindsNode r (readValue fuel)
  pairs (r : Reader) : FindsPairs r (readPairs fuel)
  flow (r : Reader) (ends : List Token) : FindsNode r (readFlow fuel ends)
  flowItems (r : Reader) (isFirst : Bool) : FindsNodes r (readFlowItems fuel isFirst)
  flowPairs (r : Reader) (isFirst : Bool) : FindsPairs r (readFlowPairs fuel isFirst)

/-- A pair in front of others. -/
theorem forall_mem_cons {pairs : NodePairs} {key value m n : Nat}
    (hpairs : ∀ p ∈ pairs, p.1 < m ∧ p.2 < m) (hle : m ≤ n) (hkey : key < n) (hvalue : value < n) :
    ∀ p ∈ (key, value) :: pairs, p.1 < n ∧ p.2 < n :=
  List.forall_mem_cons.mpr ⟨⟨hkey, hvalue⟩, fun p hp =>
    ⟨Nat.lt_of_lt_of_le (hpairs p hp).1 hle, Nat.lt_of_lt_of_le (hpairs p hp).2 hle⟩⟩

theorem FindAll.zero : FindAll 0 := by
  constructor <;> intros
  · rw [Node.read]; exact keeps_throw
  · rw [readContent]; exact keeps_throw
  · rw [readEntries]; exact keeps_throw
  · rw [readValue]; exact keeps_throw
  · rw [readPairs]; exact keeps_throw
  · rw [readFlow]; exact keeps_throw
  · rw [readFlowItems]; exact keeps_throw
  · rw [readFlowPairs]; exact keeps_throw

namespace FindAll

variable {fuel : Nat} (h : FindAll fuel)
include h

theorem read_succ (inBlock afterKey : Bool) :
    FindsNode r (Node.read (fuel + 1) inBlock afterKey) := by
  rw [Node.read]
  refine passes_peek.bind fun next? s _ _ _ => ?_
  split
  · refine passes_drop.bind fun _ t _ _ _ => keeps_get_bind fun u _ hu => ?_
    refine keeps_lift fun id hid v hv _ => Nat.lt_of_lt_of_le ?_ hv
    exact hu.lt_of_lookup (require_eq_ok_iff.mp hid)
  · refine passes_properties.bind fun p t _ _ _ => ?_
    exact h.content t inBlock afterKey p.1 p.2

theorem content_succ (inBlock afterKey : Bool) (name? : Option Text) (t : Tag) :
    FindsNode r (readContent (fuel + 1) inBlock afterKey name? t) := by
  rw [readContent]
  refine passes_peek.bind fun next? s _ _ _ => ?_
  refine .ite (fun _ => finds_sequenceOf h.entries) fun _ => ?_
  refine .ite (fun _ => ?_) fun _ => ?_
  · exact passes_drop.bind fun _ _ _ _ _ => finds_sequenceOf fun u => h.flowItems u true
  refine .ite (fun _ => ?_) fun _ => ?_
  · exact passes_drop.bind fun _ _ _ _ _ => finds_mappingOf fun u => h.flowPairs u true
  refine .ite (fun _ => ?_) fun _ => ?_
  · refine passes_drop.bind fun _ _ _ _ _ => finds_sequenceOf fun u => ?_
    refine (h.entries u).bind fun items v _ _ hitems => (passes_expect _).bind fun _ w hw _ _ => ?_
    exact keeps_pure fun x hx _ id hid => Nat.lt_of_lt_of_le (hitems id hid) (Nat.le_trans hw hx)
  refine .ite (fun _ => ?_) fun _ => ?_
  · exact passes_drop.bind fun _ _ _ _ _ => finds_mappingOf h.pairs
  split
  · exact passes_drop.bind fun _ _ _ _ _ => finds_scalarOf
  · exact .ite (fun _ => finds_scalarOf) fun _ => keeps_throw

theorem entries_succ : FindsNodes r (readEntries (fuel + 1)) := by
  rw [readEntries]
  refine (passes_accept _).bind fun isEntry s _ _ _ => .ite (fun _ => ?_) fun _ => ?_
  · refine (passes_isNext _).bind fun isLeftOut t _ _ _ => ?_
    extract_lets rest
    have hrest (item : NodeId) (u : Reader) (hitem : item < u.nodes.size) :
        FindsNodes u (rest item) :=
      (h.entries u).bind fun items v hv _ hitems => keeps_pure fun w hw _ =>
        List.forall_mem_cons.mpr ⟨Nat.lt_of_lt_of_le hitem (Nat.le_trans hv hw),
          fun id hid => Nat.lt_of_lt_of_le (hitems id hid) hw⟩
    refine .ite (fun _ => ?_) fun _ => ?_
    · exact finds_enterEmpty.bind fun item u _ _ hitem => hrest item u hitem
    · exact (h.read t true false).bind fun item u _ _ hitem => hrest item u hitem
  · exact keeps_pure fun _ _ _ => List.forall_mem_nil _

theorem value_succ : FindsNode r (readValue (fuel + 1)) := by
  rw [readValue]
  refine (passes_accept _).bind fun isValue s _ _ _ => .ite (fun _ => ?_) fun _ => finds_enterEmpty
  refine (passes_isNext _).bind fun isLeftOut t _ _ _ => ?_
  exact .ite (fun _ => finds_enterEmpty) fun _ => h.read t true true

theorem pairs_succ : FindsPairs r (readPairs (fuel + 1)) := by
  rw [readPairs]
  refine (passes_accept _).bind fun isEnd s _ _ _ => .ite (fun _ => ?_) fun _ => ?_
  · exact keeps_pure fun _ _ _ => List.forall_mem_nil _
  refine (passes_accept _).bind fun isKey _ _ _ _ => ?_
  refine passes_isLoneValue.bind fun isLone t _ _ _ => ?_
  extract_lets rest
  have hrest (key : NodeId) (u : Reader) (hkey : key < u.nodes.size) : FindsPairs u (rest key) :=
    (h.value u).bind fun value v hv _ hvalue => (h.pairs v).bind fun pairs w hw _ hpairs =>
      keeps_pure fun x hx _ => forall_mem_cons hpairs hx
        (Nat.lt_of_lt_of_le hkey (Nat.le_trans hv (Nat.le_trans hw hx)))
        (Nat.lt_of_lt_of_le hvalue (Nat.le_trans hw hx))
  refine .ite (fun _ => ?_) fun _ => .ite (fun _ => ?_) fun _ => keeps_throw_bind
  · refine (passes_isNext _).bind fun isLeftOut u _ _ _ => .ite (fun _ => ?_) fun _ => ?_
    · exact finds_enterEmpty.bind fun key v _ _ hkey => hrest key v hkey
    · exact (h.read u true true).bind fun key v _ _ hkey => hrest key v hkey
  · exact finds_enterEmpty.bind fun key v _ _ hkey => hrest key v hkey

theorem flow_succ (ends : List Token) : FindsNode r (readFlow (fuel + 1) ends) := by
  rw [readFlow]
  refine (passes_isNext _).bind fun isLeftOut t _ _ _ => ?_
  exact .ite (fun _ => finds_enterEmpty) fun _ => h.read t false false

theorem flowItems_succ (isFirst : Bool) : FindsNodes r (readFlowItems (fuel + 1) isFirst) := by
  rw [readFlowItems]
  refine (passes_accept _).bind fun isEnd s _ _ _ => .ite (fun _ => ?_) fun _ => ?_
  · exact keeps_pure fun _ _ _ => List.forall_mem_nil _
  refine (passes_readComma _ _).bind fun _ _ _ _ _ => (passes_accept _).bind fun isKey t _ _ _ => ?_
  have hrest (item : NodeId) (u : Reader) (hitem : item < u.nodes.size) :
      FindsNodes u (do return item :: (← readFlowItems fuel false)) :=
    (h.flowItems u false).bind fun items v hv _ hitems => keeps_pure fun w hw _ =>
      List.forall_mem_cons.mpr ⟨Nat.lt_of_lt_of_le hitem (Nat.le_trans hv hw),
        fun id hid => Nat.lt_of_lt_of_le (hitems id hid) hw⟩
  refine .ite (fun _ => ?_) fun _ => ?_
  · refine Growth.Keeps.bind (finds_mappingOf fun u => ?_) fun item v _ _ hitem =>
      hrest item v hitem
    refine (h.flow u _).bind fun key v _ _ hkey => (passes_accept _).bind fun isValue w hw _ _ => ?_
    extract_lets rest
    have hpair (value : NodeId) (x : Reader) (hx : w.nodes.size ≤ x.nodes.size)
        (hvalue : value < x.nodes.size) : FindsPairs x (rest value) :=
      keeps_pure fun y hy _ => List.forall_mem_singleton.mpr
        ⟨Nat.lt_of_lt_of_le hkey (Nat.le_trans hw (Nat.le_trans hx hy)),
          Nat.lt_of_lt_of_le hvalue hy⟩
    refine .ite (fun _ => ?_) fun _ => ?_
    · exact (h.flow w _).bind fun value x hx _ hvalue => hpair value x hx hvalue
    · exact finds_enterEmpty.bind fun value x hx _ hvalue => hpair value x hx hvalue
  · refine (passes_accept _).bind fun isEnd u _ _ _ => .ite (fun _ => ?_) fun _ => ?_
    · exact keeps_pure fun _ _ _ => List.forall_mem_nil _
    · exact (h.read u false false).bind fun item v _ _ hitem => hrest item v hitem

theorem flowPairs_succ (isFirst : Bool) : FindsPairs r (readFlowPairs (fuel + 1) isFirst) := by
  rw [readFlowPairs]
  refine (passes_accept _).bind fun isEnd s _ _ _ => .ite (fun _ => ?_) fun _ => ?_
  · exact keeps_pure fun _ _ _ => List.forall_mem_nil _
  refine (passes_readComma _ _).bind fun _ _ _ _ _ => (passes_accept _).bind fun isEnd t _ _ _ => ?_
  refine .ite (fun _ => ?_) fun _ => ?_
  · exact keeps_pure fun _ _ _ => List.forall_mem_nil _
  have hpair (key value : NodeId) (u : Reader) (hkey : key < u.nodes.size)
      (hvalue : value < u.nodes.size) :
      FindsPairs u (do return (key, value) :: (← readFlowPairs fuel false)) :=
    (h.flowPairs u false).bind fun pairs v hv _ hpairs => keeps_pure fun w hw _ =>
      forall_mem_cons hpairs hw (Nat.lt_of_lt_of_le hkey (Nat.le_trans hv hw))
        (Nat.lt_of_lt_of_le hvalue (Nat.le_trans hv hw))
  refine (passes_accept _).bind fun isMarked _ _ _ _ => ?_
  refine passes_isLoneValue.bind fun isLone u _ _ _ => ?_
  refine .ite (fun _ => ?_) fun _ => ?_
  · extract_lets rest
    have hrest (key : NodeId) (v : Reader) (hkey : key < v.nodes.size) :
        FindsPairs v (rest key) := by
      refine (passes_accept _).bind fun isValue w hw _ _ => ?_
      refine .ite (fun _ => ?_) fun _ => ?_
      · exact (h.flow w _).bind fun value x hx _ hvalue =>
          hpair key value x (Nat.lt_of_lt_of_le hkey (Nat.le_trans hw hx)) hvalue
      · exact finds_enterEmpty.bind fun value x hx _ hvalue =>
          hpair key value x (Nat.lt_of_lt_of_le hkey (Nat.le_trans hw hx)) hvalue
    refine .ite (fun _ => ?_) fun _ => ?_
    · exact (h.flow u _).bind fun key v _ _ hkey => hrest key v hkey
    · exact finds_enterEmpty.bind fun key v _ _ hkey => hrest key v hkey
  · refine (h.read u false false).bind fun key v _ _ hkey => ?_
    exact finds_enterEmpty.bind fun value w hw _ hvalue =>
      hpair key value w (Nat.lt_of_lt_of_le hkey hw) hvalue

theorem succ : FindAll (fuel + 1) where
  read _ := h.read_succ
  content _ := h.content_succ
  entries _ := h.entries_succ
  value _ := h.value_succ
  pairs _ := h.pairs_succ
  flow _ := h.flow_succ
  flowItems _ := h.flowItems_succ
  flowPairs _ := h.flowPairs_succ

end FindAll

theorem findAll : ∀ fuel, FindAll fuel
  | 0 => .zero
  | fuel + 1 => (findAll fuel).succ

/-! ### Documents -/

theorem passes_readDirectives (fuel : Nat) (minor? : Option Nat) (handles : List (Text × Text)) :
    Passes r (readDirectives fuel minor? handles) := by
  induction fuel generalizing r minor? handles with
  | zero => exact keeps_throw
  | succ fuel ih =>
    rw [readDirectives]
    refine passes_peek.bind fun next? s _ _ _ => ?_
    split
    · exact .ite (fun _ => keeps_throw_bind) fun _ => passes_drop.bind fun _ _ _ _ _ => ih _ _
    · exact .ite (fun _ => keeps_throw_bind) fun _ => passes_drop.bind fun _ _ _ _ _ => ih _ _
    · exact passes_drop.bind fun _ _ _ _ _ => ih _ _
    · exact passes_pure _

theorem passes_applyDirectives : Passes r applyDirectives := by
  unfold applyDirectives
  refine keeps_get_bind fun s _ _ => (passes_readDirectives _ _ _).bind fun p t _ _ _ => ?_
  refine .ite (fun _ => keeps_throw_bind) fun _ => ?_
  exact keeps_modify fun u _ hu => ⟨⟨hu.nodes, hu.anchors⟩, Nat.le_refl _, trivial⟩

theorem passes_dropEnds (fuel : Nat) : Passes r (dropEnds fuel) := by
  induction fuel generalizing r with
  | zero => exact passes_pure _
  | succ fuel ih =>
    rw [dropEnds]
    exact (passes_accept _).bind fun isEnd s _ _ _ => .ite (fun _ => ih) fun _ => passes_pure _

theorem passes_readEnd : Passes r readEnd := by
  unfold readEnd
  refine (passes_accept _).bind fun isMarked s _ _ _ => keeps_get_bind fun t _ _ => ?_
  extract_lets isFormer refuse rest
  have hrest (u : Reader) : Passes u (rest ()) := by
    refine passes_peek.bind fun next? v _ _ _ => ?_
    split
    · exact passes_pure _
    · exact .ite (fun _ => passes_applyDirectives.bind fun _ _ _ _ _ => keeps_throw)
        fun _ => keeps_throw
  refine .ite (fun _ => keeps_get_bind fun u _ _ => ?_) fun _ => hrest t
  exact (passes_dropEnds _).bind fun _ v _ _ _ => hrest v

/-- The root of a document is one of its nodes. -/
theorem finds_readStream : Finds r readStream fun root? size => ∀ id ∈ root?, id < size := by
  have hroot (root : NodeId) (u : Reader) (hu : root < u.nodes.size) :
      Finds u (do readEnd; return some root) fun root? size => ∀ id ∈ root?, id < size :=
    passes_readEnd.bind fun _ v hv _ _ => keeps_pure fun w hw _ id hid =>
      Option.some.inj hid ▸ Nat.lt_of_lt_of_le hu (Nat.le_trans hv hw)
  unfold readStream
  refine keeps_get_bind fun s _ _ => passes_peek.bind fun next? t _ _ _ => ?_
  split
  · exact keeps_pure fun _ _ _ => nofun
  refine .ite (fun _ => ?_) fun _ => ?_
  · refine passes_applyDirectives.bind fun _ _ _ _ _ => (passes_expect _).bind fun _ _ _ _ _ => ?_
    refine passes_peek.bind fun next? u _ _ _ => .ite (fun _ => ?_) fun _ => ?_
    · exact finds_enterEmpty.bind fun root v _ _ hv => hroot root v hv
    · exact ((findAll _).read u true false).bind fun root v _ _ hv => hroot root v hv
  · exact ((findAll _).read t true false).bind fun root v _ _ hv => hroot root v hv

end Node

/-- All nodes of a document refer to nodes of it, and its root is one of them. -/
structure Graph.IsClosed (g : Graph) : Prop where
  nodes : Node.AreClosed g.nodes
  root : g.root < g.nodes.size

/-- **Nothing that a document refers to is missing.** -/
theorem Graph.isClosed_of_ofText {text : Text} {g : Graph} (h : Graph.ofText text = .ok (some g)) :
    g.IsClosed := by
  rw [ofText] at h
  cases hrun : Node.readStream.run ⟨.present, TokenStream.ofText text, #[], [], _⟩ with
  | error fault => rw [hrun] at h; cases h
  | ok result =>
    obtain ⟨root?, r⟩ := result
    rw [hrun] at h
    obtain ⟨root, rfl, rfl⟩ := Option.map_eq_some_iff.mp (Except.ok.inj h)
    have hstart : Node.Reader.IsClosed
        ⟨.present, TokenStream.ofText text, #[], [], Node.defaultHandles⟩ :=
      ⟨fun n hn => absurd hn (Array.not_mem_empty n), fun p hp => absurd hp List.not_mem_nil⟩
    obtain ⟨hsound, -, hroot⟩ := Node.finds_readStream _ (Nat.le_refl _) hstart _ _ hrun
    exact ⟨hsound.nodes, hroot root rfl⟩

end ComposeLint.Yaml
