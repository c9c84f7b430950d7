import ComposeLint.Proofs.Yaml.ClosedGraphs
import ComposeLint.Yaml.Node.Merge
import Mathlib.Data.List.TakeDrop

/-!
# Merging stays within the document

Merge keys are resolved on the nodes: what a mapping takes in are pairs of other mappings of the
document. So nodes that refer to none but each other still do so afterwards, and there are as many.
-/

namespace ComposeLint.Yaml.Node

open Growth

def ArePairsWithin (size : Nat) (pairs : NodePairs) : Prop := ∀ p ∈ pairs, p.1 < size ∧ p.2 < size

/-- Nodes change, and their number does not. -/
def merging : Growth (Array Node) where
  sound := AreClosed
  le before after := after.size = before.size
  refl _ := rfl
  trans h h' := h'.trans h

variable {nodes : Array Node} {id : NodeId}

/-- A run that finds pairs of the document. -/
abbrev FindsWithin (nodes : Array Node) (m : Merging NodePairs) : Prop :=
  merging.Keeps nodes m fun pairs nodes => ArePairsWithin nodes.size pairs

theorem AreClosed.contentOf (h : AreClosed nodes) (id : NodeId) :
    (contentOf nodes id).IsWithin nodes.size := by
  unfold Node.contentOf nodeAt
  cases hid : nodes[id]? with
  | none => trivial
  | some n => exact h n (Array.mem_of_getElem? hid)

theorem AreClosed.pairs? (h : AreClosed nodes) {pairs : NodePairs}
    (hpairs : Node.pairs? nodes id = some pairs) : ArePairsWithin nodes.size pairs := by
  have hcontent := h.contentOf id
  unfold Node.pairs? at hpairs
  split at hpairs
  · next merged pairs' heq =>
    rw [heq] at hcontent
    obtain rfl := Option.some.inj hpairs
    exact fun p hp => hcontent p (List.mem_append_right _ hp)
  · cases hpairs

theorem AreClosed.mergedOf (h : AreClosed nodes) (id : NodeId) :
    ArePairsWithin nodes.size (mergedOf nodes id) := by
  have hcontent := h.contentOf id
  unfold Node.mergedOf
  split
  · next merged pairs heq =>
    rw [heq] at hcontent
    exact fun p hp => hcontent p (List.mem_append_left _ hp)
  · exact fun _ => nofun

theorem keeps_setContent {content : Content} (h : content.IsWithin nodes.size) :
    merging.Keeps nodes (setContent id content) fun _ _ => True := by
  unfold setContent
  refine keeps_modify fun s hle hs => ⟨?_, Array.size_modify, trivial⟩
  exact hs.modify id fun n _ => hle.symm ▸ h

theorem keeps_settleStandIns (keys : List NodeId) :
    merging.Keeps nodes (settleStandIns keys) fun _ _ => True := by
  -- Only the kinds of nodes change, one node after the other.
  have hfold (ids : List NodeId) {s : Array Node} (hs : AreClosed s) :
      AreClosed (ids.foldl (fun nodes key => nodes.modify key fun n => { n with kind := .string })
        s) ∧
        (ids.foldl (fun nodes key => nodes.modify key fun n => { n with kind := .string }) s).size =
          s.size := by
    induction ids generalizing s with
    | nil => exact ⟨hs, rfl⟩
    | cons id ids ih =>
      have hfirst : AreClosed (s.modify id fun n => { n with kind := .string }) := hs.modify id hs
      exact ⟨(ih hfirst).1, (ih hfirst).2.trans Array.size_modify⟩
  unfold settleStandIns
  exact keeps_modify fun s _ hs => ⟨(hfold _ hs).1, (hfold _ hs).2, trivial⟩

theorem keeps_liftOption {α : Type} {σ : Type} {g : Growth σ} {s₀ : σ} {a? : Option α}
    {Q : α → σ → Prop}
    (h : ∀ a, a? = some a → ∀ s, g.le s₀ s → g.sound s → Q a s) :
    g.Keeps s₀ (liftM a? : StateT σ (Except Fault) α) Q := by
  cases a? with
  | none => exact fun s _ _ a s' hrun => nomatch hrun
  | some a => exact keeps_pure (h a rfl)

theorem ArePairsWithin.append {size : Nat} {pairs more : NodePairs} (h : ArePairsWithin size pairs)
    (hmore : ArePairsWithin size more) : ArePairsWithin size (pairs ++ more) := fun p hp =>
  (List.mem_append.mp hp).elim (h p) (hmore p)

theorem ArePairsWithin.subset {size : Nat} {pairs part : NodePairs} (h : ArePairsWithin size pairs)
    (hpart : part ⊆ pairs) : ArePairsWithin size part := fun p hp => h p (hpart hp)

theorem keeps_pairsOfAll {pairsOf : NodeId → Merging NodePairs} {ids : List NodeId}
    (h : ∀ s id, FindsWithin s (pairsOf id)) : FindsWithin nodes (pairsOfAll pairsOf ids) := by
  unfold pairsOfAll
  have hstays (pairs : NodePairs) (s t : Array Node) (hle : merging.le s t)
      (hpairs : ArePairsWithin s.size pairs) : ArePairsWithin t.size pairs := hle.symm ▸ hpairs
  refine (keeps_mapM hstays ids fun id _ s _ => h s id).bind fun lists s _ _ hlists => ?_
  refine keeps_pure fun t ht _ p hp => ?_
  obtain ⟨pairs, hpairs, hp⟩ := List.mem_flatten.mp hp
  exact hstays pairs s t ht (hlists pairs (List.mem_reverse.mp hpairs)) p hp

structure MergeAll (fuel : Nat) : Prop where
  merge (nodes : Array Node) (id : NodeId) : merging.Keeps nodes (merge fuel id) fun _ _ => True
  mergeFrom (nodes : Array Node) (id : NodeId) (index : Nat) {merged : NodePairs}
    (hmerged : ArePairsWithin nodes.size merged) :
    merging.Keeps nodes (mergeFrom fuel id index merged) fun _ _ => True
  mergeSource (nodes : Array Node) (id : NodeId) : FindsWithin nodes (mergeSource fuel id)
  mergedPairs (nodes : Array Node) (id : NodeId) : FindsWithin nodes (mergedPairs fuel id)

namespace MergeAll

theorem zero : MergeAll 0 := by
  constructor <;> intros
  · rw [Node.merge]; exact keeps_throw
  · rw [Node.mergeFrom]; exact keeps_throw
  · rw [Node.mergeSource]; exact keeps_throw
  · rw [Node.mergedPairs]; exact keeps_throw

variable {fuel : Nat} (h : MergeAll fuel)
include h

theorem mergeFrom_succ (id : NodeId) (index : Nat) {merged : NodePairs}
    (hmerged : ArePairsWithin nodes.size merged) :
    merging.Keeps nodes (Node.mergeFrom (fuel + 1) id index merged) fun _ _ => True := by
  rw [Node.mergeFrom]
  refine keeps_get_bind fun s hle hs => ?_
  refine (keeps_liftOption (Q := fun pairs _ => ArePairsWithin s.size pairs)
    fun pairs hpairs _ _ _ => hs.pairs? hpairs).bind fun pairs t hst _ hpairs => ?_
  extract_lets isMerge
  rw [List.span_eq_takeWhile_dropWhile]
  have hplain : (pairs.drop index).takeWhile (!isMerge ·) ⊆ pairs := fun p hp =>
    List.mem_of_mem_drop ((List.takeWhile_sublist _).subset hp)
  have hrest : (pairs.drop index).dropWhile (!isMerge ·) ⊆ pairs := fun p hp =>
    List.mem_of_mem_drop ((List.dropWhile_sublist _).subset hp)
  refine (keeps_settleStandIns _).bind fun _ u htu _ _ => ?_
  have hsize : u.size = s.size := Eq.trans htu hst
  split
  · refine .ite (fun _ => keeps_setContent ?_) fun _ => keeps_pure fun _ _ _ => trivial
    have hmerged' : ArePairsWithin u.size merged := (hsize.trans hle) ▸ hmerged
    exact hmerged'.append (hmerged'.append (hsize ▸ hpairs))
  · next source rest hsources =>
    rw [hsources] at hrest
    have hcontent : Content.IsWithin u.size (.mapping (mergedOf s id) (pairs.take index ++
        (pairs.drop index).takeWhile (!isMerge ·) ++ rest)) := by
      rw [hsize]
      have hafter := hpairs.subset fun p hp => hrest (List.mem_cons_of_mem _ hp)
      exact (hs.mergedOf id).append (((hpairs.subset (List.take_subset _ _)).append
        (hpairs.subset hplain)).append hafter)
    refine .ite (fun _ => keeps_throw_bind) fun _ => ?_
    refine (keeps_setContent hcontent).bind fun _ v _ _ _ => ?_
    exact (h.mergeSource v source).bind fun more w _ _ hmore => h.mergeFrom w id _ hmore

theorem mergeSource_succ (id : NodeId) :
    FindsWithin nodes (Node.mergeSource (fuel + 1) id) := by
  rw [Node.mergeSource]
  refine keeps_get_bind fun s hle hs => ?_
  split
  · exact h.mergedPairs s id
  · exact keeps_pairsOfAll h.mergedPairs
  · exact keeps_throw

theorem mergedPairs_succ (id : NodeId) :
    FindsWithin nodes (Node.mergedPairs (fuel + 1) id) := by
  rw [Node.mergedPairs]
  refine keeps_get_bind fun s hle hs => ?_
  refine (keeps_liftOption (Q := fun _ _ => True) fun _ _ _ _ _ => trivial).bind fun _ t _ _ _ => ?_
  refine (h.merge t id).bind fun _ u _ _ _ => keeps_get_bind fun v hv hv' => ?_
  exact keeps_liftOption fun pairs hpairs w hw _ => hw.symm ▸ hv'.pairs? hpairs

theorem succ : MergeAll (fuel + 1) where
  merge nodes id := by
    rw [Node.merge]
    exact h.mergeFrom nodes id 0 (List.forall_mem_nil _)
  mergeFrom _ := h.mergeFrom_succ
  mergeSource _ := h.mergeSource_succ
  mergedPairs _ := h.mergedPairs_succ

end MergeAll

theorem mergeAll : ∀ fuel, MergeAll fuel
  | 0 => .zero
  | fuel + 1 => (mergeAll fuel).succ

/-- Resolving merge keys leaves all nodes where they were, and none of them refers to another
place. -/
theorem areClosed_of_resolveMerges {nodes' : Array Node} (h : AreClosed nodes)
    (hok : resolveMerges nodes id = .ok nodes') : AreClosed nodes' ∧ nodes'.size = nodes.size := by
  unfold resolveMerges at hok
  cases hrun : (merge (mergeFuel nodes id) id).run nodes with
  | error fault => rw [hrun] at hok; cases hok
  | ok result =>
    rw [hrun] at hok
    obtain rfl := Except.ok.inj hok
    obtain ⟨hclosed, hsize, -⟩ := (mergeAll _).merge nodes id nodes rfl h _ _ hrun
    exact ⟨hclosed, hsize⟩

end ComposeLint.Yaml.Node
